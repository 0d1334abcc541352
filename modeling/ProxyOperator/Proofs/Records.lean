import ProxyOperator.Json.Record
/-!
Reading records from members that were written over others. A strict reader wants each name it knows at
most once; putting a member in the place of an old one keeps that, and changes what is found under its
name only.
-/
namespace ProxyOperator

@[simp] theorem Except.functor_map_ok {ε α β : Type} (function : α → β) (value : α) :
    function <$> (.ok value : Except ε α) = .ok (function value) := rfl

theorem Except.functor_map_eq_ok {ε α β : Type} {function : α → β} {result : Except ε α} {value : β} :
    function <$> result = .ok value ↔ ∃ first, result = .ok first ∧ function first = value := by
  cases result with
  | error failure =>
      constructor
      · intro impossible
        cases impossible
      · rintro ⟨first, impossible, -⟩
        cases impossible
  | ok first =>
      constructor
      · exact fun mapped => ⟨first, rfl, Except.ok.inj mapped⟩
      · rintro ⟨_, ⟨⟩, rfl⟩
        rfl

namespace Json

variable {name : String} {value : Json} {members : List (String × Json)}

/-! ## Members put in place of others -/

/-- The names stay, and a new one comes at the end. -/
theorem names_putMember (name : String) (value : Json) (members : List (String × Json)) :
    (putMember name value members).map (·.1) =
      if name ∈ members.map (·.1) then members.map (·.1) else members.map (·.1) ++ [name] := by
  induction members with
  | nil => rfl
  | cons head rest induction =>
      rcases head with ⟨other, old⟩
      unfold putMember
      split
      · next same => simp [same]
      · next different =>
        have unequal : name ≠ other := fun same => different same.symm
        simp only [List.map_cons, induction, List.mem_cons, unequal, false_or]
        split <;> rfl

/-- What is found under a name: the last of its members. -/
def find (members : List (String × Json)) (name : String) : Option Json :=
  members.reverse.lookup name

theorem find_cons (head : String × Json) (rest : List (String × Json)) (name : String) :
    find (head :: rest) name =
      (find rest name).or (if name = head.1 then some head.2 else none) := by
  rcases head with ⟨other, value⟩
  unfold find
  rw [List.reverse_cons, List.lookup_append, List.lookup_cons]
  by_cases same : name = other
  · simp [same]
  · simp [same, beq_false_of_ne same]

theorem find_eq_none (missing : name ∉ members.map (·.1)) : find members name = none := by
  induction members with
  | nil => rfl
  | cons head rest induction =>
      rcases not_or.mp fun member => missing (List.mem_cons.mpr member) with ⟨different, absent⟩
      rw [find_cons, induction absent, if_neg different]
      rfl

theorem find_putMember_of_ne {other : String} (different : other ≠ name) :
    find (putMember name value members) other = find members other := by
  induction members with
  | nil => rw [putMember, find_cons, if_neg different]; rfl
  | cons head rest induction =>
      unfold putMember
      split
      · next same => rw [find_cons, find_cons, if_neg different, if_neg (same ▸ different)]
      · rw [find_cons, find_cons, induction]

theorem find_putMember_self (once : (members.map (·.1)).count name ≤ 1) :
    find (putMember name value members) name = some value := by
  induction members with
  | nil => rw [putMember, find_cons, if_pos rfl]; rfl
  | cons head rest induction =>
      rcases head with ⟨other, old⟩
      rw [List.map_cons, List.count_cons] at once
      unfold putMember
      split
      · next same =>
        have missing : name ∉ rest.map (·.1) := by
          rw [← List.count_eq_zero]
          simp only [same, BEq.rfl, if_true] at once
          omega
        rw [find_cons, find_eq_none missing, if_pos rfl]
        rfl
      · rw [find_cons, induction (by omega)]
        rfl

/-! ## Members written over others -/

/-- Members of an object after others were written over them. -/
def cover (members written : List (String × Json)) : List (String × Json) :=
  written.foldl (fun members entry => putMember entry.1 entry.2 members) members

end Json

namespace Record

/-! ## What a strict reader accepts -/

/-- Members that a strict reader of known names accepts: a known name occurs once and with a value that
passes its check, and other values can be passed over. -/
inductive Accepts (known : List (String × (Json → Decoded Unit))) : List (String × Json) → Prop
  | nil : Accepts known []
  | known {name : String} {value : Json} {rest : List (String × Json)}
      {check : Json → Decoded Unit} (looked : known.lookup name = some check)
      (passes : check value = .ok ()) (once : name ∉ rest.map (·.1))
      (further : Accepts known rest) : Accepts known ((name, value) :: rest)
  | other {name : String} {value : Json} {rest : List (String × Json)}
      (looked : known.lookup name = none) (readable : value.skip = .ok ())
      (further : Accepts known rest) : Accepts known ((name, value) :: rest)

variable {known : List (String × (Json → Decoded Unit))} {members : List (String × Json)}
  {name : String} {value : Json} {check : Json → Decoded Unit}

theorem scan_strict {seen : List String} : scan known .strict seen members = .ok () ↔
    Accepts known members ∧
      ∀ name ∈ seen, (known.lookup name).isSome → name ∉ members.map (·.1) := by
  induction members generalizing seen with
  | nil => exact ⟨fun _ => ⟨.nil, fun _ _ _ => List.not_mem_nil⟩, fun _ => rfl⟩
  | cons head rest induction =>
      rcases head with ⟨name, value⟩
      unfold scan
      cases looked : known.lookup name with
      | some check =>
          dsimp only
          split
          · next repeated =>
            constructor
            · intro impossible
              cases impossible
            · rintro ⟨-, apart⟩
              exact (apart name repeated.2 (looked ▸ rfl) (.head _)).elim
          · next fresh =>
            have unseen : name ∉ seen := fun member => fresh ⟨rfl, member⟩
            rw [Except.bind_eq_ok]
            constructor
            · rintro ⟨_, passes, further⟩
              rcases induction.mp further with ⟨accepts, apart⟩
              have once := apart name (.head _) (looked ▸ rfl)
              refine ⟨.known looked passes once accepts, fun other member isKnown inside => ?_⟩
              rcases List.mem_cons.mp inside with same | later
              · exact unseen ((show other = name from same) ▸ member)
              · exact apart other (.tail _ member) isKnown later
            · rintro ⟨accepts, apart⟩
              cases accepts with
              | known lookedUp passes once further =>
                  rcases Option.some.inj (looked.symm.trans lookedUp) with rfl
                  refine ⟨(), passes, induction.mpr ⟨further, fun other member isKnown inside => ?_⟩⟩
                  rcases List.mem_cons.mp member with same | earlier
                  · exact once (same ▸ inside)
                  · exact apart other earlier isKnown (.tail _ inside)
              | other unknown => cases looked.symm.trans unknown
      | none =>
          dsimp only
          rw [Except.bind_eq_ok]
          constructor
          · rintro ⟨_, readable, further⟩
            rcases induction.mp further with ⟨accepts, apart⟩
            refine ⟨.other looked readable accepts, fun other member isKnown inside => ?_⟩
            rcases List.mem_cons.mp inside with same | later
            · rw [show other = name from same, looked] at isKnown
              cases isKnown
            · exact apart other member isKnown later
          · rintro ⟨accepts, apart⟩
            cases accepts with
            | known lookedUp => cases looked.symm.trans lookedUp
            | other unknown readable further =>
                refine ⟨(), readable, induction.mpr ⟨further, fun other member isKnown inside => ?_⟩⟩
                exact apart other member isKnown (.tail _ inside)

theorem Accepts.once (accepts : Accepts known members) (looked : known.lookup name = some check) :
    (members.map (·.1)).count name ≤ 1 := by
  induction accepts with
  | nil => exact Nat.zero_le 1
  | @known other value rest otherCheck lookedUp passes absent further induction =>
      rw [List.map_cons, List.count_cons]
      by_cases same : other = name
      · subst same
        have none := List.count_eq_zero.mpr absent
        rw [if_pos BEq.rfl]
        omega
      · rw [if_neg (by simpa using same)]
        exact induction
  | @other other value rest unknown readable further induction =>
      have different : other ≠ name := by
        rintro rfl
        cases looked.symm.trans unknown
      rw [List.map_cons, List.count_cons, if_neg (by simpa using different)]
      exact induction

theorem Accepts.putMember (accepts : Accepts known members)
    (looked : known.lookup name = some check) (passes : check value = .ok ()) :
    Accepts known (Json.putMember name value members) := by
  induction accepts with
  | nil => exact .known looked passes List.not_mem_nil .nil
  | @known other old rest otherCheck lookedUp fine absent further induction =>
      unfold Json.putMember
      split
      · next same =>
        subst same
        exact .known looked passes absent further
      · next different =>
        refine .known lookedUp fine ?_ induction
        rw [Json.names_putMember]
        split
        · exact absent
        · rw [List.mem_append, not_or]
          exact ⟨absent, fun same => different (List.mem_singleton.mp same)⟩
  | @other other old rest unknown readable further induction =>
      unfold Json.putMember
      split
      · next same =>
        subst same
        cases looked.symm.trans unknown
      · exact .other unknown readable induction

/-- Members that a reader knows and accepts may be written over others. -/
theorem Accepts.cover {written : List (String × Json)} (accepts : Accepts known members)
    (fine : ∀ entry ∈ written, ∃ check, known.lookup entry.1 = some check ∧
      check entry.2 = .ok ()) :
    Accepts known (Json.cover members written) := by
  induction written generalizing members with
  | nil => exact accepts
  | cons entry rest induction =>
      rcases fine entry (.head _) with ⟨check, looked, passes⟩
      exact induction (accepts.putMember looked passes) fun other inside => fine other (.tail _ inside)

/-- What was written over others is found, and what was there before where nothing was written. -/
theorem Accepts.find_cover {written : List (String × Json)} (accepts : Accepts known members)
    (fine : ∀ entry ∈ written, ∃ check, known.lookup entry.1 = some check ∧
      check entry.2 = .ok ())
    (distinct : (written.map (·.1)).Nodup) (name : String) :
    Json.find (Json.cover members written) name =
      (written.lookup name).or (Json.find members name) := by
  induction written generalizing members with
  | nil => rfl
  | cons entry rest induction =>
      rcases List.nodup_cons.mp distinct with ⟨absent, restDistinct⟩
      rcases fine entry (.head _) with ⟨check, looked, passes⟩
      refine (induction (accepts.putMember looked passes)
        (fun other inside => fine other (.tail _ inside)) restDistinct).trans ?_
      rw [List.lookup_cons]
      by_cases same : name = entry.1
      · subst same
        have missing : rest.lookup entry.1 = none := by
          rw [List.lookup_eq_none_iff]
          intro other inside
          exact bne_iff_ne.mpr fun equal => absent (List.mem_map.mpr ⟨other, inside, equal.symm⟩)
        rw [missing, Json.find_putMember_self (accepts.once looked), BEq.rfl]
        rfl
      · rw [Json.find_putMember_of_ne same, beq_false_of_ne same]

/-- A strict reader reads an object as long as it accepts the members and can build from them. -/
theorem decode_strict_object {σ α : Type} {record : Record σ α} {value : α} :
    record.decode .strict (.object members) = .ok value ↔
      Accepts record.members members ∧ record.build (Json.find members) = .ok value := by
  unfold decode ofMembers
  rw [Except.bind_eq_ok]
  constructor
  · rintro ⟨_, scanned, built⟩
    exact ⟨(scan_strict.mp scanned).1, built⟩
  · rintro ⟨accepts, built⟩
    exact ⟨(), scan_strict.mpr ⟨accepts, fun _ none => nomatch none⟩, built⟩

/-- What is read once a member was put in the place of an old one. -/
theorem decode_putMember {σ α : Type} {record : Record σ α} {before after : α}
    (looked : record.members.lookup name = some check) (passes : check value = .ok ())
    (builds : ∀ find other, record.build find = .ok before → other name = some value →
      (∀ another, another ≠ name → other another = find another) →
      record.build other = .ok after)
    (reads : record.decode .strict (.object members) = .ok before) :
    record.decode .strict (.object (Json.putMember name value members)) = .ok after := by
  rcases decode_strict_object.mp reads with ⟨accepts, built⟩
  refine decode_strict_object.mpr ⟨accepts.putMember looked passes, ?_⟩
  exact builds _ _ built (Json.find_putMember_self (accepts.once looked))
    fun _ different => Json.find_putMember_of_ne different

/-- What is read once members were written over others. -/
theorem decode_cover {σ α : Type} {record : Record σ α} {before after : α}
    {written : List (String × Json)}
    (fine : ∀ entry ∈ written, ∃ check, record.members.lookup entry.1 = some check ∧
      check entry.2 = .ok ())
    (distinct : (written.map (·.1)).Nodup)
    (builds : ∀ find other, record.build find = .ok before →
      (∀ name, other name = (written.lookup name).or (find name)) →
      record.build other = .ok after)
    (reads : record.decode .strict (.object members) = .ok before) :
    record.decode .strict (.object (Json.cover members written)) = .ok after := by
  rcases decode_strict_object.mp reads with ⟨accepts, built⟩
  exact decode_strict_object.mpr
    ⟨accepts.cover fine, builds _ _ built (accepts.find_cover fine distinct)⟩

/-! ## What records are built from -/

section

variable {σ α β : Type} {find other : String → Option Json} {ends : α → Prop}

def Builds (record : Record σ α) (find : String → Option Json) (ends : α → Prop) : Prop :=
  ∃ value, record.build find = .ok value ∧ ends value

theorem builds_eq {record : Record σ α} {value : α} :
    record.Builds find (· = value) ↔ record.build find = .ok value := by
  constructor
  · rintro ⟨_, built, rfl⟩
    exact built
  · exact fun built => ⟨value, built, rfl⟩

theorem builds_map {function : β → α} {record : Record σ β} :
    (function <$> record).Builds find ends ↔ record.Builds find fun value => ends (function value) := by
  have build : (function <$> record).build find = function <$> record.build find := rfl
  unfold Builds
  rw [build]
  cases record.build find with
  | error fault =>
      constructor
      · rintro ⟨value, impossible, holds⟩
        cases impossible
      · rintro ⟨value, impossible, holds⟩
        cases impossible
  | ok value =>
      constructor
      · rintro ⟨_, ⟨⟩, holds⟩
        exact ⟨value, rfl, holds⟩
      · rintro ⟨_, ⟨⟩, holds⟩
        exact ⟨_, rfl, holds⟩

theorem builds_seq {first : Record σ (β → α)} {second : Record σ β} :
    (first <*> second).Builds find ends ↔
      first.Builds find fun function => second.Builds find fun value => ends (function value) := by
  constructor
  · rintro ⟨value, built, holds⟩
    rcases Except.bind_eq_ok.mp built with ⟨function, one, further⟩
    rcases Except.bind_eq_ok.mp further with ⟨argument, two, same⟩
    rcases Except.ok.inj same with rfl
    exact ⟨function, one, argument, two, holds⟩
  · rintro ⟨function, one, argument, two, holds⟩
    exact ⟨_, Except.bind_eq_ok.mpr ⟨function, one, Except.bind_eq_ok.mpr ⟨argument, two, rfl⟩⟩, holds⟩

section

variable {name : String} {write : σ → Option Json} {read : Json → Decoded α} {absent : Decoded α}

theorem build_found {value : Json} (there : find name = some value) :
    (member name write read absent).build find = read value := by
  simp only [member, there]

theorem build_missing (missing : find name = none) :
    (member name write read absent).build find = absent := by
  simp only [member, missing]

theorem build_congr (same : find name = other name) :
    (member name write read absent).build find = (member name write read absent).build other := by
  simp only [member, same]

end

/-! What records of several members write and know. -/

theorem write_map {function : β → α} {record : Record σ β} {value : σ} :
    (function <$> record).write value = record.write value := rfl

theorem write_seq {first : Record σ (β → α)} {second : Record σ β} {value : σ} :
    (first <*> second).write value = first.write value ++ second.write value := rfl

theorem write_defaulted {name : String} {view : σ → α} {codec : Codec α} {absent : α} {value : σ} :
    (defaulted name view codec absent).write value = [(name, codec.encode (view value))] := rfl

theorem write_optional {name : String} {view : σ → Option α} {codec : Codec α} {value : σ} :
    (optional name view codec).write value =
      (((view value).map codec.encode).map fun value => (name, value)).toList := rfl

theorem write_listed {name : String} {view : σ → List α} {codec : Codec α} {value : σ} :
    (listed name view codec).write value =
      ((if (view value).isEmpty then none else some (codec.list.encode (view value))).map
        fun value => (name, value)).toList := rfl

theorem members_map {function : β → α} {record : Record σ β} :
    (function <$> record).members = record.members := rfl

theorem members_seq {first : Record σ (β → α)} {second : Record σ β} :
    (first <*> second).members = first.members ++ second.members := rfl

theorem members_member {name : String} {write : σ → Option Json} {read : Json → Decoded α}
    {absent : Decoded α} :
    (member name write read absent).members =
      [(name, fun value => (fun _ => ()) <$> read value)] := rfl

end

end Record

end ProxyOperator
