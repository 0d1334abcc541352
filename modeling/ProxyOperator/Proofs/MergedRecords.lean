import ProxyOperator.Json.MergePatch
import ProxyOperator.Proofs.Records
/-!
Reading records from objects that a patch was merged into. A merge keeps what the patch does not have, so the
parts of a record that are not written when they are empty stay what they were.
-/
namespace ProxyOperator

namespace Json

variable {members patch : List (String × Json)} {name other : String} {value : Json}

theorem lookup_putMember_self : (putMember name value members).lookup name = some value := by
  induction members with
  | nil => simp [putMember]
  | cons head rest induction =>
      rcases head with ⟨first, old⟩
      unfold putMember
      split
      · simp
      · next different => rw [List.lookup_cons, beq_false_of_ne (Ne.symm different), induction]

theorem lookup_putMember_of_ne (different : other ≠ name) :
    (putMember name value members).lookup other = members.lookup other := by
  induction members with
  | nil => simp [putMember, different]
  | cons head rest induction =>
      rcases head with ⟨first, old⟩
      unfold putMember
      split
      · next same => simp [List.lookup_cons, beq_false_of_ne different, same]
      · rw [List.lookup_cons, List.lookup_cons, induction]

/-- Where a member was put, it or what was found there before is found. -/
theorem find_putMember (name : String) (value : Json) (members : List (String × Json)) :
    find (putMember name value members) name = some value ∨
      find (putMember name value members) name = find members name := by
  induction members with
  | nil =>
      left
      rw [putMember, find_cons, if_pos rfl]
      rfl
  | cons head rest induction =>
      unfold putMember
      split
      · rw [find_cons, find_cons, if_pos rfl]
        cases find rest name with
        | none => exact .inl rfl
        | some later => exact .inr rfl
      · rw [find_cons, find_cons]
        rcases induction with put | old
        · rw [put]
          exact .inl rfl
        · rw [old]
          exact .inr rfl

theorem lookup_of_mem {α : Type} {entries : List (String × α)} {value : α}
    (distinct : (entries.map (·.1)).Nodup) (inside : (name, value) ∈ entries) :
    entries.lookup name = some value := by
  induction entries with
  | nil => cases inside
  | cons head rest induction =>
      rcases head with ⟨first, one⟩
      rcases List.nodup_cons.mp distinct with ⟨absent, restDistinct⟩
      rw [List.lookup_cons]
      rcases List.mem_cons.mp inside with same | later
      · rcases same with ⟨⟩
        rw [BEq.rfl]
      · have different : name ≠ first := by
          rintro rfl
          exact absent (List.mem_map.mpr ⟨_, later, rfl⟩)
        rw [beq_false_of_ne different, induction restDistinct later]

/-- Where a name occurs once it does not matter from which end it is looked for. -/
theorem lookup_eq_find (once : (members.map (·.1)).count name ≤ 1) :
    members.lookup name = find members name := by
  induction members with
  | nil => rfl
  | cons head rest induction =>
      rcases head with ⟨first, old⟩
      rw [List.map_cons, List.count_cons] at once
      rw [List.lookup_cons, find_cons]
      by_cases same : name = first
      · have missing : name ∉ rest.map (·.1) := by
          rw [← List.count_eq_zero]
          simp only [same, BEq.rfl, if_true] at once ⊢
          omega
        simp [same ▸ find_eq_none missing, same]
      · rw [beq_false_of_ne same, if_neg same, Option.or_none, induction (by omega)]

/-! ## Merging as writing -/

/-- The members of a patch, each merged into what there is under its name. -/
def merged (members patch : List (String × Json)) : List (String × Json) :=
  patch.map fun entry => (entry.1, mergePatch ((members.lookup entry.1).getD .null) entry.2)

theorem names_merged : (merged members patch).map (·.1) = patch.map (·.1) := by
  simp [merged, Function.comp_def]

theorem lookup_merged : (merged members patch).lookup name =
    (patch.lookup name).map (mergePatch ((members.lookup name).getD .null)) := by
  induction patch with
  | nil => rfl
  | cons head rest induction =>
      rcases head with ⟨first, value⟩
      change List.lookup name ((first, _) :: merged members rest) = _
      rw [List.lookup_cons, List.lookup_cons, induction]
      by_cases same : name = first
      · simp [same]
      · simp [beq_false_of_ne same]

theorem merged_putMember (absent : name ∉ patch.map (·.1)) :
    merged (putMember name value members) patch = merged members patch := by
  apply List.map_congr_left
  intro entry inside
  have different : entry.1 ≠ name := fun same => absent (same ▸ List.mem_map_of_mem inside)
  rw [lookup_putMember_of_ne different]

theorem mergeMembers_cons (proper : value ≠ .null) :
    mergeMembers members ((name, value) :: patch) =
      mergeMembers (putMember name (mergePatch ((members.lookup name).getD .null) value) members)
        patch := by
  cases value with
  | null => exact absurd rfl proper
  | _ => rfl

/-- A patch that removes nothing is written over the members. -/
theorem mergeMembers_eq_cover (distinct : (patch.map (·.1)).Nodup)
    (proper : ∀ entry ∈ patch, entry.2 ≠ .null) :
    mergeMembers members patch = cover members (merged members patch) := by
  induction patch generalizing members with
  | nil => rfl
  | cons head rest induction =>
      rcases head with ⟨name, value⟩
      rcases List.nodup_cons.mp distinct with ⟨absent, restDistinct⟩
      rw [mergeMembers_cons (proper _ (.head _)),
        induction restDistinct fun entry inside => proper entry (.tail _ inside),
        merged_putMember absent]
      rfl

theorem mergePatch_ne_array {old : Json} (noArray : ∀ items, value ≠ .array items) (items : List Json) :
    mergePatch old value ≠ .array items := by
  cases value with
  | array items => exact absurd rfl (noArray items)
  | _ => exact Json.noConfusion

/-- A merge brings no array where neither the members nor the patch have one. -/
theorem find_mergeMembers_ne_array (proper : ∀ entry ∈ patch, entry.2 ≠ .null)
    (before : ∀ items, find members name ≠ some (.array items))
    (patched : ∀ items, (name, .array items) ∉ patch) (items : List Json) :
    find (mergeMembers members patch) name ≠ some (.array items) := by
  induction patch generalizing members with
  | nil => exact before items
  | cons head rest induction =>
      rcases head with ⟨other, value⟩
      rw [mergeMembers_cons (proper _ (.head _))]
      apply induction (fun entry inside => proper entry (.tail _ inside))
      · intro items
        by_cases same : name = other
        · subst same
          have noArray : ∀ items, value ≠ .array items := by
            rintro items rfl
            exact patched items (.head _)
          rcases find_putMember name (mergePatch ((members.lookup name).getD .null) value) members
            with put | old
          · rw [put]
            exact fun equal => mergePatch_ne_array noArray items (Option.some.inj equal)
          · rw [old]
            exact before items
        · rw [find_putMember_of_ne same]
          exact before items
      · exact fun items inside => patched items (.tail _ inside)

/-- A value that stays as it is when it is merged into nothing, and is not the mark of a removal. -/
structure Stands (value : Json) : Prop where
  proper : value ≠ .null
  same : mergePatch .null value = value

theorem putMember_eq_append (absent : name ∉ members.map (·.1)) :
    putMember name value members = members ++ [(name, value)] := by
  induction members with
  | nil => rfl
  | cons head rest induction =>
      rcases head with ⟨first, old⟩
      rcases not_or.mp fun member => absent (List.mem_cons.mpr member) with ⟨different, further⟩
      rw [putMember, if_neg (Ne.symm different), induction further]
      rfl

theorem cover_eq_append (distinct : ((members ++ patch).map (·.1)).Nodup) :
    cover members patch = members ++ patch := by
  induction patch generalizing members with
  | nil => exact (List.append_nil members).symm
  | cons head rest induction =>
      rcases head with ⟨name, value⟩
      have absent : name ∉ members.map (·.1) := by
        rw [List.map_append, List.map_cons] at distinct
        intro inside
        exact (List.nodup_append.mp distinct).2.2 name inside name (.head _) rfl
      change cover (putMember name value members) rest = _
      rw [putMember_eq_append absent, induction (by simpa using distinct), List.append_assoc]
      rfl

theorem Stands.object (distinct : (patch.map (·.1)).Nodup)
    (stands : ∀ entry ∈ patch, Stands entry.2) : Stands (.object patch) := by
  have proper : ∀ entry ∈ patch, entry.2 ≠ .null := fun entry inside => (stands entry inside).proper
  have same : merged [] patch = patch := by
    refine (List.map_congr_left fun entry inside => ?_).trans (List.map_id patch)
    exact Prod.ext rfl (stands entry inside).same
  have written : mergeMembers [] patch = cover [] (merged [] patch) :=
    mergeMembers_eq_cover distinct proper
  rw [same, cover_eq_append (by simpa using distinct)] at written
  exact ⟨Json.noConfusion, congrArg Json.object written⟩

end Json

namespace Codec

variable {α : Type}

/-- A codec whose values take the place of whatever they are merged into, and are read back. -/
structure Plain (codec : Codec α) : Prop where
  proper : ∀ value, codec.encode value ≠ .null
  whole : ∀ old value, Json.mergePatch old (codec.encode value) = codec.encode value
  faithful : ∀ value, codec.decode (codec.encode value) = .ok value

theorem nullable_decode {codec : Codec α} {value : Json} (proper : value ≠ .null) :
    codec.nullable.decode value = some <$> codec.decode value := by
  cases value with
  | null => exact absurd rfl proper
  | _ => rfl

end Codec

namespace Record

variable {σ α β : Type} {name : String} {value : σ} {found : String → Option Json}

/-- What is found under a name after members were merged into what was found before. -/
def mergedAt (found : String → Option Json) (written : List (String × Json)) (name : String) :
    Option Json :=
  match written.lookup name with
  | some patch => some (Json.mergePatch ((found name).getD .null) patch)
  | none => found name

/-- What a record builds once what it writes of a value was merged into what was found before. -/
structure Settles (record : Record σ α) (value : σ) (found : String → Option Json) (result : α) :
    Prop where
  names : ((record.write value).map (·.1)).Sublist (record.members.map (·.1))
  stands : ∀ entry ∈ record.write value, entry.2.Stands
  passes : ∀ entry ∈ record.write value, ∃ check, (entry.1, check) ∈ record.members ∧
    check (Json.mergePatch ((found entry.1).getD .null) entry.2) = .ok ()
  builds : (record.members.map (·.1)).Nodup → ∀ find : String → Option Json,
    (∀ name ∈ record.members.map (·.1), find name = mergedAt found (record.write value) name) →
      record.build find = .ok result

/-- A list that is not written when it is empty, over an older one. -/
def listOver (older newer : List α) : List α := if newer.isEmpty then older else newer

/-- A part that has parts of its own, over an older one. -/
def partOver (blend : α → α → α) (older newer : Option α) : Option α :=
  match newer, older with
  | some newer, some older => some (blend older newer)
  | newer, older => newer.or older

theorem partOver_whole (older newer : Option α) :
    partOver (fun _ newer => newer) older newer = newer.or older := by
  cases older <;> cases newer <;> rfl

/-- A record that is written part by part over an older one, some of whose parts stay. -/
structure Blends (record : Record σ σ) (blend : σ → σ → σ) : Prop where
  stands : ∀ value, (Json.object (record.write value)).Stands
  faithful : ∀ value, record.decode .strict (.object (record.write value)) = .ok value
  blends : ∀ {members older} newer, record.decode .strict (.object members) = .ok older →
    record.decode .strict (.object (Json.mergeMembers members (record.write newer))) =
      .ok (blend older newer)

namespace Settles

theorem map {record : Record σ β} {function : β → α} {result : β}
    (settles : record.Settles value found result) :
    (function <$> record).Settles value found (function result) where
  names := settles.names
  stands := settles.stands
  passes := settles.passes
  builds distinct find agrees := by
    have built := settles.builds distinct find agrees
    change function <$> record.build find = _
    rw [built]
    rfl

theorem seq {first : Record σ (β → α)} {second : Record σ β} {function : β → α} {result : β}
    (one : first.Settles value found function) (two : second.Settles value found result) :
    (first <*> second).Settles value found (function result) where
  names := by
    rw [write_seq, members_seq, List.map_append, List.map_append]
    exact one.names.append two.names
  stands entry inside := by
    rcases List.mem_append.mp inside with early | late
    · exact one.stands entry early
    · exact two.stands entry late
  passes entry inside := by
    rcases List.mem_append.mp inside with early | late
    · rcases one.passes entry early with ⟨check, member, fine⟩
      exact ⟨check, List.mem_append_left _ member, fine⟩
    · rcases two.passes entry late with ⟨check, member, fine⟩
      exact ⟨check, List.mem_append_right _ member, fine⟩
  builds distinct find agrees := by
    rw [members_seq, List.map_append] at distinct agrees
    rcases List.nodup_append.mp distinct with ⟨firstDistinct, secondDistinct, apart⟩
    have written : (first <*> second).write value = first.write value ++ second.write value := rfl
    have here : ∀ name ∈ first.members.map (·.1),
        find name = mergedAt found (first.write value) name := by
      intro name inside
      have missing : (second.write value).lookup name = none := by
        rw [List.lookup_eq_none_iff]
        intro entry late
        exact bne_iff_ne.mpr (apart name inside entry.1 (two.names.subset (List.mem_map_of_mem late)))
      rw [agrees name (List.mem_append_left _ inside), written]
      unfold mergedAt
      rw [List.lookup_append, missing, Option.or_none]
    have there : ∀ name ∈ second.members.map (·.1),
        find name = mergedAt found (second.write value) name := by
      intro name inside
      have missing : (first.write value).lookup name = none := by
        rw [List.lookup_eq_none_iff]
        intro entry early
        have known := one.names.subset (List.mem_map_of_mem early)
        exact bne_iff_ne.mpr (Ne.symm (apart entry.1 known name inside))
      rw [agrees name (List.mem_append_right _ inside), written]
      unfold mergedAt
      rw [List.lookup_append, missing, Option.none_or]
    have built := one.builds firstDistinct find here
    have further := two.builds secondDistinct find there
    exact Except.bind_eq_ok.mpr ⟨_, built, Except.bind_eq_ok.mpr ⟨_, further, rfl⟩⟩

/-! ## Members -/

section

variable {write : σ → Option Json} {read : Json → Decoded α} {absent : Decoded α} {result : α}

/-- A member that is written is read as it was merged. -/
theorem written {patch : Json} (writes : write value = some patch) (stands : patch.Stands)
    (reads : read (Json.mergePatch ((found name).getD .null) patch) = .ok result) :
    (member name write read absent).Settles value found result := by
  have whole : (member name write read absent).write value = [(name, patch)] := by
    change ((write value).map _).toList = _
    rw [writes]
    rfl
  constructor
  · rw [whole]
    exact .refl _
  · rw [whole]
    intro entry inside
    exact List.mem_singleton.mp inside ▸ stands
  · rw [whole]
    intro entry inside
    rcases List.mem_singleton.mp inside with rfl
    exact ⟨_, .head _, congrArg (fun outcome => (fun _ => ()) <$> outcome) reads⟩
  · intro _ find agrees
    have there : find name = some (Json.mergePatch ((found name).getD .null) patch) := by
      rw [agrees name (.head _), whole, mergedAt, List.lookup_cons, BEq.rfl]
    exact (build_found there).trans reads

/-- A member that is not written is read as it was found. -/
theorem kept (omits : write value = none)
    (reads : (member name write read absent).build found = .ok result) :
    (member name write read absent).Settles value found result := by
  have whole : (member name write read absent).write value = [] := by
    change ((write value).map _).toList = _
    rw [omits]
    rfl
  constructor
  · rw [whole]
    exact List.nil_sublist _
  · rw [whole]
    exact fun _ none => nomatch none
  · rw [whole]
    exact fun _ none => nomatch none
  · intro _ find agrees
    have there : find name = found name := by
      rw [agrees name (.head _), whole]
      rfl
    exact (build_congr there).trans reads

end

section

variable {codec : Codec α}

theorem ofPlain {write : σ → Option Json} {absent : Decoded α} {part : α} (plain : codec.Plain)
    (writes : write value = some (codec.encode part)) :
    (member name write codec.decode absent).Settles value found part := by
  apply written writes ⟨plain.proper part, plain.whole _ part⟩
  rw [plain.whole, plain.faithful]

theorem required {view : σ → α} (plain : codec.Plain) :
    (Record.required name view codec).Settles value found (view value) :=
  ofPlain plain rfl

theorem defaulted {view : σ → α} {default : α} (plain : codec.Plain) :
    (Record.defaulted name view codec default).Settles value found (view value) :=
  ofPlain plain rfl

/-- An optional part that is empty stays what it was. -/
theorem optional {view : σ → Option α} {older : Option α} (plain : codec.Plain)
    (reads : (Record.optional name view codec).build found = .ok older) :
    (Record.optional name view codec).Settles value found ((view value).or older) := by
  cases part : view value with
  | none => exact kept (by simp [part]) reads
  | some part =>
      apply written (by rw [part]; rfl) ⟨plain.proper _, plain.whole _ _⟩
      rw [plain.whole, Codec.nullable_decode (plain.proper _), plain.faithful]
      rfl

/-- An optional part that was not there is what is written. -/
theorem optional_fresh {view : σ → Option α} (plain : codec.Plain) (missing : found name = none) :
    (Record.optional name view codec).Settles value found (view value) := by
  have reads : (Record.optional name view codec).build found = .ok none := build_missing missing
  have settles : (Record.optional name view codec).Settles value found ((view value).or none) :=
    optional plain reads
  rwa [Option.or_none] at settles

/-- A list that is empty stays what it was. -/
theorem listed {view : σ → List α} {older : List α} (plain : codec.list.Plain)
    (reads : (Record.listed name view codec).build found = .ok older) :
    (Record.listed name view codec).Settles value found (listOver older (view value)) := by
  unfold listOver
  cases empty : (view value).isEmpty with
  | true => exact kept (by simp [empty]) reads
  | false => exact ofPlain plain (by simp [empty])

/-- An optional part with parts of its own is blended with the old one. -/
theorem nested {inner : Record α α} {blend : α → α → α} {view : σ → Option α} {older : Option α}
    (blends : inner.Blends blend) (noArray : ∀ items, found name ≠ some (.array items))
    (reads : (Record.optional name view (inner.codec .strict)).build found = .ok older) :
    (Record.optional name view (inner.codec .strict)).Settles value found
      (partOver blend older (view value)) := by
  cases part : view value with
  | none => exact kept (by simp [part]) reads
  | some newer =>
      have fresh : some <$> inner.decode .strict (.object (Json.mergeMembers [] (inner.write newer))) =
          .ok (some newer) := by
        have same : Json.object (Json.mergeMembers [] (inner.write newer)) =
            .object (inner.write newer) := (blends.stands newer).same
        rw [same, blends.faithful]
        rfl
      apply written (by rw [part]; rfl) (blends.stands newer)
      cases before : found name with
      | none =>
          rcases Except.ok.inj ((build_missing before).symm.trans reads) with rfl
          exact fresh
      | some old =>
          have reads : (inner.codec .strict).nullable.decode old = .ok older :=
            (build_found before).symm.trans reads
          cases old with
          | null =>
              rcases Except.ok.inj reads with rfl
              exact fresh
          | object members =>
              rcases Except.functor_map_eq_ok.mp reads with ⟨older, before, rfl⟩
              exact congrArg (fun outcome => some <$> outcome) (blends.blends newer before)
          | array items => exact absurd before (noArray items)
          | _ => cases reads

end

end Settles

/-! ## Whole records -/

variable {members : List (String × Json)}

/-- A strict reader reads an object that a record was merged into. -/
theorem Settles.decode {record : Record σ α} {result : α}
    (settles : record.Settles value (Json.find members) result)
    (distinct : (record.members.map (·.1)).Nodup) (accepts : Accepts record.members members) :
    record.decode .strict (.object (Json.mergeMembers members (record.write value))) =
      .ok result := by
  have once : ((record.write value).map (·.1)).Nodup := distinct.sublist settles.names
  have proper : ∀ entry ∈ record.write value, entry.2 ≠ .null :=
    fun entry inside => (settles.stands entry inside).proper
  have single : ∀ name ∈ record.members.map (·.1), members.lookup name = Json.find members name := by
    intro name inside
    rcases List.mem_map.mp inside with ⟨⟨_, check⟩, member, rfl⟩
    exact Json.lookup_eq_find (accepts.once (Json.lookup_of_mem distinct member))
  have fine : ∀ entry ∈ Json.merged members (record.write value), ∃ check,
      record.members.lookup entry.1 = some check ∧ check entry.2 = .ok () := by
    intro entry inside
    rcases List.mem_map.mp inside with ⟨patch, written, rfl⟩
    rcases settles.passes patch written with ⟨check, member, passes⟩
    refine ⟨check, Json.lookup_of_mem distinct member, ?_⟩
    dsimp only
    rw [single patch.1 (List.mem_map_of_mem member)]
    exact passes
  rw [Json.mergeMembers_eq_cover once proper]
  refine decode_strict_object.mpr ⟨accepts.cover fine, settles.builds distinct _ ?_⟩
  intro name inside
  rw [accepts.find_cover fine (by rw [Json.names_merged]; exact once), Json.lookup_merged,
    single name inside, mergedAt]
  cases (record.write value).lookup name <;> rfl

theorem Settles.object_stands {record : Record σ α} {result : α}
    (settles : record.Settles value found result) (distinct : (record.members.map (·.1)).Nodup) :
    (Json.object (record.write value)).Stands :=
  .object (distinct.sublist settles.names) settles.stands

/-- A record that settles where there was nothing is read back from what is written of it. -/
theorem Settles.decode_written {record : Record σ α} {result : α}
    (settles : record.Settles value (Json.find []) result)
    (distinct : (record.members.map (·.1)).Nodup) :
    record.decode .strict (.object (record.write value)) = .ok result := by
  have same : Json.object (Json.mergeMembers [] (record.write value)) =
      .object (record.write value) := (settles.object_stands distinct).same
  rw [← same]
  exact settles.decode distinct .nil

theorem Blends.ofSettles {record : Record σ σ} {blend : σ → σ → σ}
    (distinct : (record.members.map (·.1)).Nodup)
    (fresh : ∀ value, record.Settles value (Json.find []) value)
    (merges : ∀ {members older} newer, record.build (Json.find members) = .ok older →
      record.Settles newer (Json.find members) (blend older newer)) :
    record.Blends blend where
  stands value := (fresh value).object_stands distinct
  faithful value := (fresh value).decode_written distinct
  blends newer reads := by
    rcases decode_strict_object.mp reads with ⟨accepts, built⟩
    exact (merges newer built).decode distinct accepts

end Record

end ProxyOperator
