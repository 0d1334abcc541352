import ProxyOperator.Proofs.Pools
/-!
Owners of upstream blocks. The name of a block tells its owner by a name and a namespace with a dash between
them. A dash may stand in either, so that different owners can be told alike.
-/
namespace ProxyOperator

/-! ## Texts joined by a dash -/

/-- Two pairs of texts are joined alike if they are the same pair, or if in one of them the dash stands at an
earlier dash of the other. -/
theorem dashed_inj {first second others rest : List Char} :
    first ++ '-' :: rest = second ++ '-' :: others ↔
      (first = second ∧ rest = others) ∨
      (∃ between, second = first ++ '-' :: between ∧ rest = between ++ '-' :: others) ∨
      ∃ between, first = second ++ '-' :: between ∧ others = between ++ '-' :: rest := by
  constructor
  · intro same
    rcases List.append_eq_append_iff.mp same with ⟨more, longer, left⟩ | ⟨more, longer, left⟩
    · cases more with
      | nil => simp_all
      | cons head between =>
          have ⟨dash, left⟩ := List.cons.inj left
          exact .inr (.inl ⟨between, dash ▸ longer, left⟩)
    · cases more with
      | nil => simp_all
      | cons head between =>
          have ⟨dash, left⟩ := List.cons.inj left
          exact .inr (.inr ⟨between, dash ▸ longer, left⟩)
  · intro splits
    rcases splits with ⟨rfl, rfl⟩ | ⟨between, rfl, rfl⟩ | ⟨between, rfl, rfl⟩ <;> simp

theorem dashed_inj_of_plain {first second others rest : List Char} (restPlain : '-' ∉ rest)
    (othersPlain : '-' ∉ others) :
    first ++ '-' :: rest = second ++ '-' :: others ↔ first = second ∧ rest = others := by
  rw [dashed_inj]
  constructor
  · intro splits
    rcases splits with same | ⟨between, _, rfl⟩ | ⟨between, _, rfl⟩
    · exact same
    · simp at restPlain
    · simp at othersPlain
  · exact .inl

private theorem dash_not_mem_toDigits (value : Nat) : '-' ∉ Nat.toDigits 16 value := by
  induction value using Nat.strongRecOn with
  | _ value induction =>
      have digit (number : Nat) : '-' ≠ Nat.digitChar number := (Nat.digitChar_ne '-' (by decide)).symm
      rw [Nat.toDigits_eq_if (by decide)]
      split
      · simp [digit]
      · next large => simp [digit, induction (value / 16) (by omega)]

theorem Digest.dash_not_mem (text : String) : '-' ∉ (Digest.ofText text).toList := by
  rw [Digest.ofText, Hex.ofNat, String.toList_ofList]
  exact dash_not_mem_toDigits _

/-! ## Owners -/

namespace ObjectKey

/-- The name of `second` goes on where that of `first` ends, after a dash, with what the namespace of `first`
begins with. -/
def Overlaps (first second : ObjectKey) : Prop :=
  ∃ between, second.name = first.name ++ "-" ++ between ∧
    first.namespace = between ++ "-" ++ second.namespace

variable {first second : ObjectKey}

theorem Overlaps.dashes (overlaps : first.Overlaps second) :
    '-' ∈ first.namespace.toList ∧ '-' ∈ second.name.toList := by
  rcases overlaps with ⟨between, names, namespaces⟩
  rw [names, namespaces]
  simp

theorem Overlaps.lengths (overlaps : first.Overlaps second) :
    first.name.length < second.name.length ∧ second.namespace.length < first.namespace.length := by
  rcases overlaps with ⟨between, names, namespaces⟩
  have dash : "-".length = 1 := rfl
  rw [names, namespaces]
  simp only [String.length_append]
  omega

theorem overlaps_iff : first.Overlaps second ↔
    ∃ between, second.name.toList = first.name.toList ++ '-' :: between ∧
      first.namespace.toList = between ++ '-' :: second.namespace.toList := by
  constructor
  · intro overlaps
    rcases overlaps with ⟨between, names, namespaces⟩
    exact ⟨between.toList, by simp [names], by simp [namespaces]⟩
  · intro spelled
    rcases spelled with ⟨between, names, namespaces⟩
    refine ⟨String.ofList between, ?_, ?_⟩ <;> apply String.toList_injective
    · simp [names]
    · simp [namespaces]

/-- Owners are told alike just if they are the same or overlap. -/
theorem told_alike_iff :
    first.name ++ "-" ++ first.namespace = second.name ++ "-" ++ second.namespace ↔
      first = second ∨ first.Overlaps second ∨ second.Overlaps first := by
  rw [overlaps_iff, overlaps_iff, ← String.toList_inj]
  simp only [String.toList_append, List.append_assoc]
  apply dashed_inj.trans
  apply or_congr_left
  cases first
  cases second
  simp [String.toList_inj, and_comm]

end ObjectKey

/-! ## Names of blocks -/

namespace Upstream

theorem nameFor_eq_iff {first second : ObjectKey} {backends others : List Backend} :
    nameFor first backends = nameFor second others ↔
      first.name ++ "-" ++ first.namespace = second.name ++ "-" ++ second.namespace ∧
        Digest.ofText (digestText backends) = Digest.ofText (digestText others) := by
  have told (owner : ObjectKey) (backends : List Backend) :
      (nameFor owner backends).toList = (family ++ "-").toList ++
        ((owner.name ++ "-" ++ owner.namespace).toList ++
          '-' :: (Digest.ofText (digestText backends)).toList) := by
    simp [nameFor]
  rw [← String.toList_inj, told, told, List.append_cancel_left_eq,
    dashed_inj_of_plain (Digest.dash_not_mem _) (Digest.dash_not_mem _), String.toList_inj,
    String.toList_inj]

section

variable {first second : ObjectKey} (different : first ≠ second) (backends others : List Backend)

include different

theorem nameFor_ne (apart : ¬ first.Overlaps second) (back : ¬ second.Overlaps first) :
    nameFor first backends ≠ nameFor second others := by
  intro same
  rcases ObjectKey.told_alike_iff.mp (nameFor_eq_iff.mp same).1 with equal | overlaps | overlaps
  · exact different equal
  · exact apart overlaps
  · exact back overlaps

/-- Owners of one name, or in one namespace, never have a block of the same name. -/
theorem nameFor_ne_of_shared (shared : first.name = second.name ∨ first.namespace = second.namespace) :
    nameFor first backends ≠ nameFor second others := by
  apply nameFor_ne different <;> intro overlaps <;> have lengths := overlaps.lengths <;>
    rcases shared with same | same <;> rw [same] at lengths <;> omega

/-- Owners in namespaces without a dash never have a block of the same name. -/
theorem nameFor_ne_of_plain (plain : '-' ∉ first.namespace.toList) (other : '-' ∉ second.namespace.toList) :
    nameFor first backends ≠ nameFor second others := by
  apply nameFor_ne different <;> intro overlaps
  · exact plain overlaps.dashes.1
  · exact other overlaps.dashes.1

end

/-- Different owners have blocks of one name just if they overlap, and the digests of the backends are the
same. -/
theorem owners_share_iff {first second : ObjectKey} (different : first ≠ second)
    (backends others : List Backend) :
    (synthesize first backends).name = (synthesize second others).name ↔
      (first.Overlaps second ∨ second.Overlaps first) ∧
        Digest.ofBytes (Utf8.encode (digestText backends)) =
          Digest.ofBytes (Utf8.encode (digestText others)) := by
  change nameFor first backends = nameFor second others ↔ _
  rw [nameFor_eq_iff, ObjectKey.told_alike_iff, Digest.ofText_inj, or_iff_right different]

/-- Hosts of one name in namespaces without a dash have blocks of different names. -/
theorem owners_share_iff_namesakes :
    (⟨"apps", "web"⟩ : ObjectKey) ≠ ⟨"other", "web"⟩ ∧
      (synthesize ⟨"apps", "web"⟩ [⟨"a", 1⟩, ⟨"b", 2⟩]).name ≠
        (synthesize ⟨"other", "web"⟩ [⟨"a", 1⟩, ⟨"b", 2⟩]).name := by
  have different : (⟨"apps", "web"⟩ : ObjectKey) ≠ ⟨"other", "web"⟩ := by decide
  refine ⟨different, fun same => ?_⟩
  rcases ((owners_share_iff different _ _).mp same).1 with overlaps | overlaps
  · exact absurd overlaps.dashes.1 (by decide)
  · exact absurd overlaps.dashes.1 (by decide)

/-- The hosts `web` in `a-b` and `web-a` in `b` have blocks of one name. -/
theorem owners_share_web :
    (⟨"a-b", "web"⟩ : ObjectKey) ≠ ⟨"b", "web-a"⟩ ∧
      (synthesize ⟨"a-b", "web"⟩ [⟨"10.0.0.1", 80⟩, ⟨"10.0.0.2", 80⟩]).name =
        (synthesize ⟨"b", "web-a"⟩ [⟨"10.0.0.1", 80⟩, ⟨"10.0.0.2", 80⟩]).name := by
  decide +kernel

end Upstream

end ProxyOperator
