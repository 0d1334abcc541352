import Mathlib.Data.Set.Card
import ProxyOperator.Proofs.Claims
import ProxyOperator.Proofs.Domains
/-!
Declared domains. A list of domains that passes its check names as many domains as it is long, in the very
spelling in which claims and certificates are compared; one that does not pass is turned down on account of the
first domain that is at fault.
-/
namespace ProxyOperator

namespace Domain

variable {domain : String} {domains earlier rest seen : List String} {problem : Problem}

/-! ## Faults -/

/-- What is wrong with a domain that is declared after others. -/
inductive Fault (earlier : List String) (domain : String) : Problem → Prop
  | empty (blank : trimText domain = "") : Fault earlier domain .emptyDomain
  | repeated (filled : trimText domain ≠ "") {other : String} (before : other ∈ earlier)
      (same : (trimText other).toLower = (trimText domain).toLower) :
      Fault earlier domain (.repeatedDomain domain)

/-- Nothing is wrong with a domain that is declared after others. -/
def Sound (earlier : List String) (domain : String) : Prop := ∀ problem, ¬ Fault earlier domain problem

/-- No domain of a list is at fault. -/
def Faultless (domains : List String) : Prop :=
  ∀ earlier domain later, domains = earlier ++ domain :: later → Sound earlier domain

/-- What is wrong with the first domain at fault of those that are declared after others. -/
def FirstFaultAfter (earlier rest : List String) (problem : Problem) : Prop :=
  ∃ between domain later, rest = between ++ domain :: later ∧ Faultless (earlier ++ between) ∧
    Fault (earlier ++ between) domain problem

/-- What is wrong with the first domain that is at fault. -/
def FirstFault (domains : List String) (problem : Problem) : Prop :=
  ∃ earlier domain later, domains = earlier ++ domain :: later ∧ Faultless earlier ∧
    Fault earlier domain problem

/-- One to ten domains, none of them empty and no two the same. -/
structure WellFormed (domains : List String) : Prop where
  nonempty : 1 ≤ domains.length
  few : domains.length ≤ 10
  filled : ∀ domain ∈ domains, trimText domain ≠ ""
  distinct : domains.Pairwise fun first second => (trimText first).toLower ≠ (trimText second).toLower

theorem exists_fault (unsound : ¬ Sound earlier domain) : ∃ problem, Fault earlier domain problem := by
  simpa [Sound] using unsound

theorem sound_iff : Sound earlier domain ↔ trimText domain ≠ "" ∧
    ∀ other ∈ earlier, (trimText other).toLower ≠ (trimText domain).toLower := by
  constructor
  · intro sound
    have filled : trimText domain ≠ "" := fun blank => sound _ (.empty blank)
    exact ⟨filled, fun other before same => sound _ (.repeated filled before same)⟩
  · rintro ⟨filled, distinct⟩ problem (blank | ⟨_, before, same⟩)
    · exact filled blank
    · exact distinct _ before same

theorem faultless_nil : Faultless [] := by
  intro earlier domain later split
  cases earlier <;> cases split

theorem Faultless.of_append (faultless : Faultless (earlier ++ rest)) : Faultless earlier := by
  intro front other back split
  exact faultless front other (back ++ rest) (by simp [split])

theorem faultless_concat :
    Faultless (earlier ++ [domain]) ↔ Faultless earlier ∧ Sound earlier domain := by
  constructor
  · intro faultless
    exact ⟨faultless.of_append, faultless earlier domain [] rfl⟩
  · rintro ⟨faultless, sound⟩ front other back split
    rcases List.eq_nil_or_concat back with rfl | ⟨back, last, rfl⟩
    · obtain ⟨rfl, same⟩ := List.append_inj' split rfl
      exact List.singleton_inj.mp same ▸ sound
    · have shifted : earlier ++ [domain] = (front ++ other :: back) ++ [last] := by simpa using split
      exact faultless front other back (List.append_inj' shifted rfl).1

/-- The domains of a list are without fault if none is empty and no two are the same. -/
theorem faultless_iff : Faultless domains ↔ (∀ domain ∈ domains, trimText domain ≠ "") ∧
    domains.Pairwise fun first second => (trimText first).toLower ≠ (trimText second).toLower := by
  induction domains using List.reverseRecOn with
  | nil => simp [faultless_nil]
  | append_singleton earlier domain induction =>
      rw [faultless_concat, induction, sound_iff, List.pairwise_append, List.forall_mem_append]
      simp only [List.forall_mem_singleton, List.pairwise_singleton, true_and]
      exact and_and_and_comm

theorem FirstFaultAfter.faultless (first : FirstFaultAfter earlier rest problem) : Faultless earlier := by
  rcases first with ⟨between, domain, later, rfl, before, _⟩
  exact before.of_append

theorem firstFaultAfter_cons : FirstFaultAfter earlier (domain :: rest) problem ↔
    (Faultless earlier ∧ Fault earlier domain problem) ∨
      FirstFaultAfter (earlier ++ [domain]) rest problem := by
  constructor
  · rintro ⟨between, last, later, split, before, fault⟩
    cases between with
    | nil =>
        obtain ⟨rfl, rfl⟩ := List.cons.inj split
        rw [List.append_nil] at before fault
        exact .inl ⟨before, fault⟩
    | cons first between =>
        obtain ⟨rfl, rfl⟩ := List.cons.inj split
        rw [List.append_cons] at before fault
        exact .inr ⟨between, last, later, rfl, before, fault⟩
  · rintro (⟨before, fault⟩ | ⟨between, last, later, rfl, before, fault⟩)
    · rw [← List.append_nil earlier] at before fault
      exact ⟨[], domain, rest, rfl, before, fault⟩
    · rw [← List.append_cons] at before fault
      exact ⟨domain :: between, last, later, rfl, before, fault⟩

/-! ## The check -/

/-- The names that were seen are those of the domains before. -/
def Seen (earlier seen : List String) : Prop := ∀ name, name ∈ seen ↔ name ∈ earlier.map normalize

theorem Seen.next (known : Seen earlier seen) (domain : String) :
    Seen (earlier ++ [domain]) (normalize domain :: seen) := by
  intro name
  rw [List.mem_cons, known, List.map_append, List.mem_append, List.map_singleton, List.mem_singleton]
  exact or_comm

theorem normalize_isEmpty : (normalize domain).isEmpty = true ↔ trimText domain = "" := by
  rw [String.isEmpty_iff, ← String.toList_eq_nil_iff, ← String.toList_eq_nil_iff]
  change ((trimText domain).map Char.toLower).toList = [] ↔ _
  rw [String.toList_map, List.map_eq_nil_iff]

theorem checkEach_of_fault (known : Seen earlier seen) (fault : Fault earlier domain problem) :
    checkEach seen (domain :: rest) = .error problem := by
  cases fault with
  | empty blank => exact if_pos (normalize_isEmpty.mpr blank)
  | @repeated filled other before same =>
      have inside : normalize domain ∈ seen := (known _).mpr (List.mem_map.mpr ⟨other, before, same⟩)
      exact (if_neg fun empty => filled (normalize_isEmpty.mp empty)).trans (if_pos inside)

theorem checkEach_of_sound (known : Seen earlier seen) (sound : Sound earlier domain) :
    checkEach seen (domain :: rest) = checkEach (normalize domain :: seen) rest := by
  have ⟨filled, distinct⟩ := sound_iff.mp sound
  have outside : normalize domain ∉ seen := by
    rw [known, List.mem_map]
    rintro ⟨other, before, same⟩
    exact distinct other before same
  exact (if_neg fun empty => filled (normalize_isEmpty.mp empty)).trans (if_neg outside)

theorem checkEach_eq_ok_iff (known : Seen earlier seen) (faultless : Faultless earlier) :
    checkEach seen rest = .ok () ↔ Faultless (earlier ++ rest) := by
  -- A sound domain goes from those that are left to those before, whose names are the ones that were seen.
  induction rest generalizing earlier seen with
  | nil => simpa [checkEach] using faultless
  | cons domain rest induction =>
      by_cases sound : Sound earlier domain
      · rw [checkEach_of_sound known sound,
          induction (known.next domain) (faultless_concat.mpr ⟨faultless, sound⟩), List.append_assoc]
        rfl
      · rcases exists_fault sound with ⟨problem, fault⟩
        rw [checkEach_of_fault known fault]
        refine iff_of_false nofun fun whole => ?_
        exact whole earlier domain rest rfl problem fault

/-- Of the domains that are left, the first one that is at fault ends the check. -/
theorem checkEach_eq_error_iff (known : Seen earlier seen) (faultless : Faultless earlier) :
    checkEach seen rest = .error problem ↔ FirstFaultAfter earlier rest problem := by
  induction rest generalizing earlier seen with
  | nil => simp [checkEach, FirstFaultAfter]
  | cons domain rest induction =>
      rw [firstFaultAfter_cons]
      by_cases sound : Sound earlier domain
      · rw [checkEach_of_sound known sound,
          induction (known.next domain) (faultless_concat.mpr ⟨faultless, sound⟩)]
        exact (or_iff_right fun here => sound problem here.2).symm
      · have here : ¬ FirstFaultAfter (earlier ++ [domain]) rest problem := fun later =>
          sound (faultless_concat.mp later.faultless).2
        rw [or_iff_left here]
        rcases exists_fault sound with ⟨found, fault⟩
        constructor
        · intro failed
          rw [checkEach_of_fault known fault] at failed
          cases failed
          exact ⟨faultless, fault⟩
        · intro other
          exact checkEach_of_fault known other.2

theorem check_eq_checkEach (nonempty : 1 ≤ domains.length) (few : domains.length ≤ 10) :
    check domains = checkEach [] domains := by
  unfold check
  rw [if_neg, if_neg (Nat.not_lt.mpr few)]
  rw [List.isEmpty_iff, ← List.length_eq_zero_iff]
  exact Nat.ne_of_gt nonempty

theorem length_of_check (passes : check domains = .ok ()) : 1 ≤ domains.length ∧ domains.length ≤ 10 := by
  unfold check at passes
  split at passes
  · cases passes
  · next filled =>
    split at passes
    · cases passes
    · next few =>
      rw [List.isEmpty_iff, ← List.length_eq_zero_iff] at filled
      exact ⟨Nat.pos_of_ne_zero filled, Nat.not_lt.mp few⟩

private theorem seen_nil : Seen [] [] := fun _ => Iff.rfl

theorem check_eq_ok_iff : check domains = .ok () ↔ WellFormed domains := by
  constructor
  · intro passes
    have ⟨nonempty, few⟩ := length_of_check passes
    rw [check_eq_checkEach nonempty few, checkEach_eq_ok_iff seen_nil faultless_nil] at passes
    have ⟨filled, distinct⟩ := faultless_iff.mp passes
    exact ⟨nonempty, few, filled, distinct⟩
  · intro formed
    rw [check_eq_checkEach formed.nonempty formed.few, checkEach_eq_ok_iff seen_nil faultless_nil]
    exact faultless_iff.mpr ⟨formed.filled, formed.distinct⟩

theorem check_eq_error_iff (nonempty : 1 ≤ domains.length) (few : domains.length ≤ 10) :
    check domains = .error problem ↔ FirstFault domains problem := by
  rw [check_eq_checkEach nonempty few, checkEach_eq_error_iff seen_nil faultless_nil]
  exact Iff.rfl

/-! ## Names -/

theorem WellFormed.ncard_names (formed : WellFormed domains) :
    (names domains).ncard = domains.length := by
  have distinct : (domains.map normalize).Nodup := List.pairwise_map.mpr formed.distinct
  have finite : names domains = ((domains.map normalize).toFinset : Set String) := by
    ext name
    simp [names]
  rw [finite, Set.ncard_coe_finset, List.toFinset_card_of_nodup distinct, List.length_map]

/-- A list of domains passes its check just if it is well formed. One of admissible length that does not pass
is turned down with what is wrong with the first domain at fault, and one that passes names as many domains as
it is long. The names are what is compared where certificates are looked up and where claims are. -/
theorem check_accepts_iff (domains : List String) :
    (check domains = .ok () ↔ WellFormed domains) ∧
    (1 ≤ domains.length → domains.length ≤ 10 →
      ∀ problem, check domains = .error problem ↔ FirstFault domains problem) ∧
    (check domains = .ok () → (names domains).ncard = domains.length) ∧
    (∀ others, sameSet others domains = true ↔ names others = names domains) ∧
    ∀ host other : ProxyHost, host.spec.domains = domains →
      ((host.contestedDomain? other).isSome = true ↔
        (names domains ∩ names other.spec.domains).Nonempty) := by
  refine ⟨check_eq_ok_iff, fun nonempty few _ => check_eq_error_iff nonempty few, ?_, ?_, ?_⟩
  · intro passes
    exact (check_eq_ok_iff.mp passes).ncard_names
  · intro others
    exact sameSet_iff_names
  · rintro host other rfl
    exact host.contestedDomain?_isSome other

/-- A second spelling of a domain is at fault, before an empty one that follows it. Without the two the list
passes, and names two domains. -/
theorem check_accepts_iff_respelled :
    FirstFault ["a.example.com", "b.example.com", " A.Example.com\t", ""]
        (.repeatedDomain " A.Example.com\t") ∧
      check ["a.example.com", "b.example.com", " A.Example.com\t", ""] =
        .error (.repeatedDomain " A.Example.com\t") ∧
      check ["a.example.com", "b.example.com"] = .ok () ∧
      (names ["a.example.com", "b.example.com"]).ncard = 2 := by
  have plain : ["a.example.com", "b.example.com"].map normalize = ["a.example.com", "b.example.com"] := by
    decide +kernel
  have respelled : normalize " A.Example.com\t" = "a.example.com" := by decide +kernel
  have distinct : (["a.example.com", "b.example.com"].map normalize).Pairwise (· ≠ ·) := by
    rw [plain]
    decide
  have formed : WellFormed ["a.example.com", "b.example.com"] :=
    ⟨by decide, by decide, by decide +kernel, List.pairwise_map.mp distinct⟩
  have fault : Fault ["a.example.com", "b.example.com"] " A.Example.com\t"
      (.repeatedDomain " A.Example.com\t") :=
    .repeated (by decide +kernel) List.mem_cons_self ((List.cons.inj plain).1.trans respelled.symm)
  have first : FirstFault ["a.example.com", "b.example.com", " A.Example.com\t", ""]
      (.repeatedDomain " A.Example.com\t") :=
    ⟨_, _, _, rfl, faultless_iff.mpr ⟨formed.filled, formed.distinct⟩, fault⟩
  have passes := (check_accepts_iff _).1.mpr formed
  have ⟨_, fails, _⟩ := check_accepts_iff ["a.example.com", "b.example.com", " A.Example.com\t", ""]
  have ⟨_, _, counted, _⟩ := check_accepts_iff ["a.example.com", "b.example.com"]
  exact ⟨first, (fails (by decide) (by decide) _).mpr first, passes, counted passes⟩

end Domain
end ProxyOperator
