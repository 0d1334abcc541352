import ProxyOperator.Text.Dictionary
/-!
What is in a dictionary. There is one entry for each key, and an insertion changes that of its key only.
-/
namespace ProxyOperator

namespace Dictionary

variable {α : Type} {dictionary : Dictionary α} {key : String} {value : α}

theorem mem_insertEntry_self (key : String) (value : α) (entries : List (String × α)) :
    (key, value) ∈ insertEntry key value entries := by
  induction entries with
  | nil => exact .head _
  | cons head rest induction =>
      rcases head with ⟨other, old⟩
      unfold insertEntry
      split
      · exact .head _
      · split
        · exact .head _
        · exact .tail _ induction

theorem mem_insertEntry_of_ne {entry : String × α} {entries : List (String × α)}
    (member : entry ∈ entries) (different : entry.1 ≠ key) :
    entry ∈ insertEntry key value entries := by
  induction member with
  | head rest =>
      unfold insertEntry
      split
      · exact .tail _ (.head _)
      · split
        · next same => exact (different same.symm).elim
        · exact .head _
  | tail head inside induction =>
      rcases head with ⟨other, old⟩
      unfold insertEntry
      split
      · exact .tail _ (.tail _ inside)
      · split
        · exact .tail _ inside
        · exact .tail _ induction

private theorem different_of_lt {first second : String} (below : first < second) : first ≠ second :=
  fun equal => String.lt_irrefl second (equal ▸ below)

theorem eq_of_mem {first second : String × α} (one : first ∈ dictionary.entries)
    (other : second ∈ dictionary.entries) (same : first.1 = second.1) : first = second := by
  rcases dictionary with ⟨entries, sorted⟩
  induction sorted with
  | nil => cases one
  | @cons head rest least sorted induction =>
      rcases List.mem_cons.mp one with atHead | inside
      · rcases List.mem_cons.mp other with otherAtHead | otherInside
        · exact atHead.trans otherAtHead.symm
        · exact (different_of_lt (least second otherInside) (atHead ▸ same)).elim
      · rcases List.mem_cons.mp other with otherAtHead | otherInside
        · exact (different_of_lt (least first inside) (otherAtHead ▸ same).symm).elim
        · exact induction inside otherInside

theorem mem_insert {entry : String × α} :
    entry ∈ (dictionary.insert key value).entries ↔
      entry = (key, value) ∨ entry.1 ≠ key ∧ entry ∈ dictionary.entries := by
  constructor
  · intro member
    by_cases same : entry.1 = key
    · exact .inl (eq_of_mem member (mem_insertEntry_self _ _ _) same)
    · refine .inr ⟨same, (mem_insertEntry member).resolve_left ?_⟩
      exact fun equal => same (congrArg Prod.fst equal)
  · rintro (rfl | ⟨different, member⟩)
    · exact mem_insertEntry_self _ _ _
    · exact mem_insertEntry_of_ne member different

theorem mem_keys_insert {other : String} :
    other ∈ (dictionary.insert key value).keys ↔ other = key ∨ other ∈ dictionary.keys := by
  unfold keys
  simp only [List.mem_map, mem_insert]
  constructor
  · rintro ⟨entry, rfl | ⟨_, inside⟩, rfl⟩
    · exact .inl rfl
    · exact .inr ⟨entry, inside, rfl⟩
  · rintro (rfl | ⟨entry, inside, rfl⟩)
    · exact ⟨_, .inl rfl, rfl⟩
    · by_cases same : entry.1 = key
      · exact ⟨_, .inl rfl, same.symm⟩
      · exact ⟨entry, .inr ⟨same, inside⟩, rfl⟩

theorem mem_keys_ofList {entries : List (String × α)} :
    key ∈ (ofList entries).keys ↔ key ∈ entries.map (·.1) := by
  have folded (dictionary : Dictionary α) :
      key ∈ (entries.foldl (fun dictionary entry => dictionary.insert entry.1 entry.2)
          dictionary).keys ↔
        key ∈ entries.map (·.1) ∨ key ∈ dictionary.keys := by
    induction entries generalizing dictionary with
    | nil => simp
    | cons entry rest induction =>
        rw [List.foldl_cons, induction, mem_keys_insert, List.map_cons, List.mem_cons]
        exact or_left_comm.trans or_assoc.symm
  exact (folded .empty).trans (or_iff_left List.not_mem_nil)

theorem filter_key (member : (key, value) ∈ dictionary.entries) :
    dictionary.entries.filter (fun entry => entry.1 = key) = [(key, value)] := by
  rcases dictionary with ⟨entries, sorted⟩
  induction sorted with
  | nil => cases member
  | @cons head rest least sorted induction =>
      rcases List.mem_cons.mp member with atHead | inside
      · subst atHead
        rw [List.filter_cons_of_pos (by simp), List.filter_eq_nil_iff.mpr]
        intro entry inside
        simpa using (different_of_lt (least entry inside)).symm
      · have different := different_of_lt (least _ inside)
        rw [List.filter_cons_of_neg (by simpa using different)]
        exact induction inside

end Dictionary

@[simp] theorem mem_distinctTexts {text : String} {texts : List String} :
    text ∈ distinctTexts texts ↔ text ∈ texts := by
  unfold distinctTexts
  rw [Dictionary.mem_keys_ofList, List.map_map]
  exact iff_of_eq (congrArg (text ∈ ·) (List.map_id texts))

theorem distinctTexts_sorted (texts : List String) : (distinctTexts texts).Pairwise (· < ·) :=
  List.pairwise_map.mpr (Dictionary.sorted _)

end ProxyOperator
