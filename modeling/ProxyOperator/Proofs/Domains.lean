import Mathlib.Data.List.Forall2
import Mathlib.Data.List.TakeWhile
import Mathlib.Data.Set.Basic
import ProxyOperator.Resource.Domain
/-!
Names of domains: what their spelling leaves open, the label and the zone that a name falls into at its first
dot, and the names that a wildcard stands for.
-/
namespace ProxyOperator

/-! ## Blanks and letters -/

theorem trimStart_append_blank {blanks : List Char} (blank : ∀ character ∈ blanks, isBlank character)
    (characters : List Char) : trimStart (blanks ++ characters) = trimStart characters :=
  List.dropWhile_append_of_pos blank

theorem trimStart_blank {blanks : List Char} (blank : ∀ character ∈ blanks, isBlank character) :
    trimStart blanks = [] :=
  List.dropWhile_eq_nil_iff.mpr blank

/-- Blanks around a text are trimmed, whatever they are. -/
theorem trimChars_surrounded {before after : List Char} (core : List Char)
    (front : ∀ character ∈ before, isBlank character) (back : ∀ character ∈ after, isBlank character) :
    trimChars (before ++ (core ++ after)) = trimChars core := by
  have turned : ∀ character ∈ after.reverse, isBlank character := by simpa using back
  unfold trimChars
  rw [trimStart_append_blank front]
  have split : trimStart (core ++ after) =
      if (trimStart core).isEmpty then trimStart after else trimStart core ++ after :=
    List.dropWhile_append
  rw [split]
  split
  · next blank => rw [trimStart_blank back, List.isEmpty_iff.mp blank]
  · rw [List.reverse_append, trimStart_append_blank turned]

theorem isBlank_graphic {character : Char} (low : 0x20 < character.toNat)
    (high : character.toNat < 0x7F) : isBlank character = false := by
  simp [isBlank]
  omega

/-- To lower a letter makes no blank of it, and leaves blanks alone. -/
@[simp] theorem isBlank_toLower (character : Char) : isBlank character.toLower = isBlank character := by
  unfold Char.toLower
  split
  · next upper =>
    have low : 65 ≤ character.val.toNat := UInt32.le_iff_toNat_le.mp upper.1
    have high : character.val.toNat ≤ 90 := UInt32.le_iff_toNat_le.mp upper.2
    have lowered : (character.val + ('a'.val - 'A'.val)).toNat = character.val.toNat + 32 := by
      rw [UInt32.toNat_add]
      change (character.val.toNat + 32) % 4294967296 = _
      omega
    rw [isBlank_graphic, isBlank_graphic] <;> simp only [Char.toNat, lowered] <;> omega
  · rfl

theorem trimStart_map_toLower (characters : List Char) :
    trimStart (characters.map Char.toLower) = (trimStart characters).map Char.toLower := by
  have same : isBlank ∘ Char.toLower = isBlank := funext isBlank_toLower
  rw [trimStart, List.dropWhile_map, same]
  rfl

theorem trimChars_map_toLower (characters : List Char) :
    trimChars (characters.map Char.toLower) = (trimChars characters).map Char.toLower := by
  simp only [trimChars, trimStart_map_toLower, ← List.map_reverse]

theorem toLower_toLower (character : Char) : character.toLower.toLower = character.toLower := by
  have lowered : ¬ (character.toLower.val ≥ 'A'.val ∧ character.toLower.val ≤ 'Z'.val) := by
    unfold Char.toLower
    split
    · next upper =>
      have low := UInt32.le_iff_toNat_le.mp upper.1
      have high := UInt32.le_iff_toNat_le.mp upper.2
      simp [UInt32.le_iff_toNat_le] at low high ⊢
      omega
    · next other => exact other
  exact dif_neg lowered

/-- A text that neither begins nor ends with a blank is left as it is. -/
theorem trimChars_eq_self {characters : List Char}
    (front : ∀ first ∈ characters.head?, isBlank first = false)
    (back : ∀ last ∈ characters.getLast?, isBlank last = false) :
    trimChars characters = characters := by
  have start {characters : List Char} (visible : ∀ first ∈ characters.head?, isBlank first = false) :
      trimStart characters = characters := by
    cases characters with
    | nil => rfl
    | cons first rest => exact List.dropWhile_cons_of_neg (by simp [visible first rfl])
  rw [trimChars, start front, start, List.reverse_reverse]
  rwa [List.head?_reverse]

theorem isBlank_head?_trimStart {characters : List Char} {first : Char}
    (begins : (trimStart characters).head? = some first) : isBlank first = false := by
  have visible := List.head?_dropWhile_not isBlank characters
  change (characters.dropWhile isBlank).head? = some first at begins
  rw [begins] at visible
  exact visible

theorem isBlank_getLast?_trimChars {characters : List Char} {last : Char}
    (ends : (trimChars characters).getLast? = some last) : isBlank last = false := by
  rw [trimChars, List.getLast?_reverse] at ends
  exact isBlank_head?_trimStart ends

namespace Domain

/-! ## Spellings -/

/-- A text with blanks around it, if any. -/
def Surrounds (text : String) (core : List Char) : Prop :=
  ∃ before after, text.toList = before ++ (core ++ after) ∧
    (∀ character ∈ before, isBlank character) ∧ ∀ character ∈ after, isBlank character

/-- Two spellings of one domain: they differ in blanks around it and in the case of ASCII letters. -/
def Respells (first second : String) : Prop :=
  ∃ core other, Surrounds first core ∧ Surrounds second other ∧
    core.map Char.toLower = other.map Char.toLower

theorem toList_normalize (domain : String) :
    (normalize domain).toList = trimChars (domain.toList.map Char.toLower) := by
  change ((trimText domain).map Char.toLower).toList = _
  rw [String.toList_map, trimText, String.toList_ofList, trimChars_map_toLower]

theorem Surrounds.normalize {text : String} {core : List Char} (surrounds : Surrounds text core) :
    (normalize text).toList = trimChars (core.map Char.toLower) := by
  rcases surrounds with ⟨before, after, whole, front, back⟩
  rw [toList_normalize, whole, List.map_append, List.map_append]
  apply trimChars_surrounded
  · simpa using front
  · simpa using back

theorem toLower_normalize {domain : String} {character : Char}
    (inside : character ∈ (normalize domain).toList) : character.toLower = character := by
  rw [toList_normalize, trimChars_map_toLower] at inside
  rcases List.mem_map.mp inside with ⟨raw, -, rfl⟩
  exact toLower_toLower raw

/-- All spellings of a domain are compared in the same spelling. -/
theorem Respells.normalize {first second : String} (respells : Respells first second) :
    Domain.normalize first = Domain.normalize second := by
  rcases respells with ⟨core, other, one, two, same⟩
  rw [← String.toList_inj, one.normalize, two.normalize, same]

theorem normalize_of_forall₂ {domains others : List String}
    (respelled : List.Forall₂ Respells domains others) :
    domains.map normalize = others.map normalize := by
  induction respelled with
  | nil => rfl
  | cons respells _ induction => rw [List.map_cons, List.map_cons, respells.normalize, induction]

/-! ## Sets of domains -/

/-- The domains that are meant by a list of them. -/
def names (domains : List String) : Set String := {name | name ∈ domains.map normalize}

variable {first second third : List String}

theorem sameSet_iff : sameSet first second = true ↔
    ∀ name, name ∈ first.map normalize ↔ name ∈ second.map normalize := by
  unfold sameSet
  simp only [Bool.and_eq_true, List.all_eq_true, decide_eq_true_eq]
  constructor
  · exact fun ⟨there, back⟩ name => ⟨there name, back name⟩
  · exact fun same => ⟨fun name => (same name).mp, fun name => (same name).mpr⟩

theorem sameSet_iff_names : sameSet first second = true ↔ names first = names second :=
  sameSet_iff.trans Set.ext_iff.symm

theorem sameSet_symm (same : sameSet first second = true) : sameSet second first = true :=
  sameSet_iff.mpr fun name => (sameSet_iff.mp same name).symm

theorem sameSet_trans (same : sameSet first second = true) (further : sameSet second third = true) :
    sameSet first third = true :=
  sameSet_iff.mpr fun name => (sameSet_iff.mp same name).trans (sameSet_iff.mp further name)

/-! ## Labels and zones -/

/-- A name falls into its first label and the zone behind its first dot. -/
structure Splits (name label zone : String) : Prop where
  whole : name = label ++ "." ++ zone
  undotted : '.' ∉ label.toList

theorem splits_iff {name label zone : String} : Splits name label zone ↔
    name.toList.takeWhile (· ≠ '.') = label.toList ∧
      name.toList.dropWhile (· ≠ '.') = '.' :: zone.toList := by
  constructor
  · intro splits
    have plain : ∀ character ∈ label.toList, decide (character ≠ '.') = true := by
      intro character inside
      exact decide_eq_true fun dot => splits.undotted (dot ▸ inside)
    have whole : name.toList = label.toList ++ '.' :: zone.toList := by
      rw [splits.whole]
      simp
    rw [whole, List.takeWhile_append_of_pos plain, List.dropWhile_append_of_pos plain]
    simp
  · intro split
    constructor
    · rw [← String.toList_inj, ← List.takeWhile_append_dropWhile (p := (· ≠ '.')) (l := name.toList),
        split.1, split.2]
      simp
    · rw [← split.1]
      intro inside
      simpa using List.mem_takeWhile_imp inside

theorem exists_splits {name : String} (dotted : '.' ∈ name.toList) : ∃ label zone, Splits name label zone := by
  rcases List.eq_append_cons_of_mem dotted with ⟨label, zone, whole, undotted⟩
  refine ⟨String.ofList label, String.ofList zone, ?_, ?_⟩
  · rw [← String.toList_inj, whole]
    simp
  · rwa [String.toList_ofList]

/-- The wildcard name of a domain stands for what follows its first dot, if there is a further dot in it. -/
theorem wildcard?_eq_some_iff {domain wildcard : String} : wildcard? domain = some wildcard ↔
    ∃ label zone, Splits (normalize domain) label zone ∧ '.' ∈ zone.toList ∧
      wildcard = "*." ++ zone := by
  unfold wildcard?
  simp only [splits_iff]
  split
  · next zone rest =>
    constructor
    · intro given
      split at given
      · next dotted =>
        refine ⟨_, String.ofList zone, ⟨String.toList_ofList.symm, ?_⟩, ?_, ?_⟩
        · rw [rest, String.toList_ofList]
        · rwa [String.toList_ofList]
        · rw [← Option.some.inj given, ← String.toList_inj]
          simp
      · cases given
    · rintro ⟨label, other, ⟨-, same⟩, dotted, rfl⟩
      cases rest.symm.trans same
      rw [if_pos dotted, Option.some_inj, ← String.toList_inj]
      simp
  · next unsplit =>
    constructor
    · intro impossible
      cases impossible
    · rintro ⟨label, zone, ⟨-, rest⟩, -⟩
      exact absurd rest (unsplit _)

/-- A wildcard name is spelled as names are compared. -/
theorem normalize_wildcard {domain wildcard : String} (stands : wildcard? domain = some wildcard) :
    normalize wildcard = wildcard := by
  rcases wildcard?_eq_some_iff.mp stands with ⟨label, zone, splits, dotted, rfl⟩
  have spelled : ("*." ++ zone).toList = '*' :: '.' :: zone.toList := by simp
  have some : zone.toList ≠ [] := List.ne_nil_of_mem dotted
  have ending : (normalize domain).toList.getLast? = zone.toList.getLast? := by
    rw [splits.whole, String.toList_append, List.getLast?_append_of_ne_nil _ some]
  have lower : zone.toList.map Char.toLower = zone.toList := by
    refine (List.map_congr_left fun character inside => ?_).trans (List.map_id _)
    have within : character ∈ (normalize domain).toList := by simp [splits.whole, inside]
    exact toLower_normalize within
  have plain : ('*' :: '.' :: zone.toList).map Char.toLower = '*' :: '.' :: zone.toList :=
    congrArg (fun rest => '*' :: '.' :: rest) lower
  rw [← String.toList_inj, toList_normalize, spelled, plain]
  apply trimChars_eq_self
  · rintro _ ⟨⟩
    rfl
  · intro last ends
    have same : ('*' :: '.' :: zone.toList).getLast? = zone.toList.getLast? :=
      List.getLast?_append_of_ne_nil ['*', '.'] some
    rw [same, ← ending, toList_normalize] at ends
    exact isBlank_getLast?_trimChars ends

/-! ## What a name of a certificate stands for -/

/-- A name covers itself, and a wildcard name all that is one label below its zone. -/
def Covers (name domain : String) : Prop :=
  domain = name ∨ ∃ label zone, Splits domain label zone ∧ label ≠ "" ∧ name = "*." ++ zone

theorem covers_iff {name domain : String} : Covers name domain ↔
    domain = name ∨ domain.toList.takeWhile (· ≠ '.') ≠ [] ∧ '.' ∈ domain.toList ∧
      name.toList = '*' :: domain.toList.dropWhile (· ≠ '.') := by
  apply or_congr_right
  constructor
  · rintro ⟨label, zone, splits, some, rfl⟩
    have ⟨front, back⟩ := splits_iff.mp splits
    rw [front, back, splits.whole]
    refine ⟨fun empty => some ?_, ?_, ?_⟩
    · rwa [String.toList_eq_nil_iff] at empty
    · simp
    · simp
  · rintro ⟨some, dotted, wild⟩
    rcases exists_splits dotted with ⟨label, zone, splits⟩
    have ⟨front, back⟩ := splits_iff.mp splits
    refine ⟨label, zone, splits, ?_, ?_⟩
    · rintro rfl
      exact some front
    · rw [← String.toList_inj, wild, back]
      simp

instance (name domain : String) : Decidable (Covers name domain) := decidable_of_iff' _ covers_iff

end Domain

end ProxyOperator
