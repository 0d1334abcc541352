import Mathlib.Algebra.Order.Field.Rat
import Mathlib.Data.Nat.Find
import Mathlib.Data.Stream.Init
import Mathlib.Tactic.Linarith
import ProxyOperator.Proofs.Logs
import ProxyOperator.Proofs.Ways
/-!
Attempts that follow each other. The first one that succeeds, that fails in a way not worth another attempt, or
that is the last one allowed is final: there is a wait between any two attempts up to it, none after it, and
what it came to is what all of them come to.
-/
namespace ProxyOperator

open Attempt

namespace Retry

variable {ε α : Type} {retry : Retry} {accepts : ε → Bool} {draw : Nat → Rat} {number before given : Nat}
  {outcome : Except ε α} {outcomes : Stream' (Except ε α)}

/-! ## Final attempts -/

/-- An attempt, by its number and its outcome, that no other one follows. -/
inductive Final (retry : Retry) (accepts : ε → Bool) (number : Nat) : Except ε α → Prop
  | success (value : α) : Final retry accepts number (.ok value)
  | refusal {failure : ε} (refused : accepts failure = false) : Final retry accepts number (.error failure)
  | last (outcome : Except ε α) (limited : 0 < retry.maxAttempts)
      (spent : number = retry.maxAttempts) : Final retry accepts number outcome

/-- Of the attempts with these outcomes, from one number on, the first that is final has so many before it. -/
structure EndsAfter (retry : Retry) (accepts : ε → Bool) (number : Nat)
    (outcomes : Stream' (Except ε α)) (before : Nat) : Prop where
  final : retry.Final accepts (number + before) (outcomes.get before)
  first : ∀ earlier < before, ¬ retry.Final accepts (number + earlier) (outcomes.get earlier)

/-- The number of an attempt that is allowed. -/
def Allows (retry : Retry) (number : Nat) : Prop := 0 < retry.maxAttempts → number ≤ retry.maxAttempts

theorem Allows.next (allowed : retry.Allows number) (further : ¬ retry.Final accepts number outcome) :
    retry.Allows (number + 1) := by
  intro limited
  have different : number ≠ retry.maxAttempts := fun spent => further (.last outcome limited spent)
  have within := allowed limited
  omega

theorem goesOn_eq_false_iff (allowed : retry.Allows number) :
    retry.goesOn accepts number outcome = false ↔ retry.Final accepts number outcome := by
  constructor
  · intro stops
    cases outcome with
    | ok value => exact .success value
    | error failure =>
        simp only [goesOn, Bool.and_eq_false_iff, Bool.not_eq_false', Bool.and_eq_true,
          decide_eq_true_eq] at stops
        rcases stops with refused | ⟨limited, spent⟩
        · exact .refusal refused
        · exact .last _ limited (Nat.le_antisymm (allowed limited) spent)
  · rintro (value | refused | ⟨_, limited, spent⟩)
    · rfl
    · simp [goesOn, refused]
    · cases outcome with
      | ok value => rfl
      | error failure => simp [goesOn, limited, spent]

theorem goesOn_iff (allowed : retry.Allows number) :
    retry.goesOn accepts number outcome = true ↔ ¬ retry.Final accepts number outcome := by
  rw [← goesOn_eq_false_iff allowed, Bool.not_eq_false]

theorem endsAfter_zero_iff :
    retry.EndsAfter accepts number outcomes 0 ↔ retry.Final accepts number outcomes.head :=
  ⟨fun ends => ends.final, fun final => ⟨final, fun _ impossible => nomatch impossible⟩⟩

theorem endsAfter_succ_iff : retry.EndsAfter accepts number outcomes (before + 1) ↔
    ¬ retry.Final accepts number outcomes.head ∧
      retry.EndsAfter accepts (number + 1) outcomes.tail before := by
  constructor
  · intro ends
    refine ⟨ends.first 0 (Nat.succ_pos _), ?_, fun earlier sooner => ?_⟩
    · rw [Nat.add_right_comm]
      exact ends.final
    · rw [Nat.add_right_comm]
      exact ends.first (earlier + 1) (Nat.succ_lt_succ sooner)
  · rintro ⟨further, ends⟩
    refine ⟨?_, fun earlier sooner => ?_⟩
    · have final := ends.final
      rwa [Nat.add_right_comm] at final
    · cases earlier with
      | zero => exact further
      | succ earlier =>
          have first := ends.first earlier (Nat.lt_of_succ_lt_succ sooner)
          rwa [Nat.add_right_comm] at first

/-- If an attempt is final, the first one that is comes no later. -/
theorem exists_endsAfter_le (final : retry.Final accepts (number + before) (outcomes.get before)) :
    ∃ least ≤ before, retry.EndsAfter accepts number outcomes least := by
  classical
  have found : ∃ before, retry.Final accepts (number + before) (outcomes.get before) := ⟨before, final⟩
  exact ⟨Nat.find found, Nat.find_min' found final, Nat.find_spec found,
    fun earlier sooner => Nat.find_min found sooner⟩

/-- Where attempts are limited, one of those that are allowed is final. -/
theorem exists_endsAfter (limited : 0 < retry.maxAttempts) (outcomes : Stream' (Except ε α)) :
    ∃ before < retry.maxAttempts, retry.EndsAfter accepts 1 outcomes before := by
  have spent : 1 + (retry.maxAttempts - 1) = retry.maxAttempts := by omega
  have final : retry.Final accepts (1 + (retry.maxAttempts - 1)) (outcomes.get (retry.maxAttempts - 1)) :=
    .last _ limited spent
  have ⟨least, within, ends⟩ := exists_endsAfter_le final
  exact ⟨least, by omega, ends⟩

/-! ## Courses -/

/-- The outcome that is kept, if it came to that, and how many attempts and waits there are. -/
structure Course.Totals (course : Course ε α) (outcome : Option (Except ε α)) (attempts waits : Nat) :
    Prop where
  outcome : course.outcome = outcome
  attempts : course.attempts = attempts
  waits : course.waits.length = waits

/-- The waits after attempts, from one number on. -/
def waits (retry : Retry) (draw : Nat → Rat) (number count : Nat) : List Rat :=
  (List.range' number count).map fun number => spread (draw number) (retry.delay number)

theorem length_waits (count : Nat) : (retry.waits draw number count).length = count := by
  rw [waits, List.length_map, List.length_range']

theorem follow_of_endsAfter (allowed : retry.Allows number)
    (ends : retry.EndsAfter accepts number outcomes before) (enough : before < given) :
    retry.follow accepts draw number (outcomes.take given) =
      ⟨some (outcomes.get before), before + 1, retry.waits draw number before⟩ := by
  -- Each attempt that is not final takes one outcome off the front, and the next one has the next number.
  induction before generalizing number outcomes given with
  | zero =>
      cases given with
      | zero => cases enough
      | succ given =>
          have stops := (goesOn_eq_false_iff allowed).mpr (endsAfter_zero_iff.mp ends)
          rw [Stream'.take_succ, follow, stops]
          rfl
  | succ before induction =>
      cases given with
      | zero => cases enough
      | succ given =>
          have ⟨further, later⟩ := endsAfter_succ_iff.mp ends
          have course := induction (allowed.next further) later (Nat.lt_of_succ_lt_succ enough)
          rw [Stream'.take_succ, follow, (goesOn_iff allowed).mpr further, if_pos rfl, course]
          rfl

theorem follow_of_further (allowed : retry.Allows number)
    (further : ∀ before < given, ¬ retry.Final accepts (number + before) (outcomes.get before)) :
    retry.follow accepts draw number (outcomes.take given) = ⟨none, given, retry.waits draw number given⟩ := by
  induction given generalizing number outcomes with
  | zero => rfl
  | succ given induction =>
      have first : ¬ retry.Final accepts number outcomes.head := further 0 (Nat.succ_pos _)
      have rest : ∀ before < given,
          ¬ retry.Final accepts (number + 1 + before) (outcomes.tail.get before) := by
        intro before sooner
        rw [Nat.add_right_comm]
        exact further (before + 1) (Nat.succ_lt_succ sooner)
      rw [Stream'.take_succ, follow, (goesOn_iff allowed).mpr first, if_pos rfl,
        induction (allowed.next first) rest]
      rfl

/-! ## Waits -/

theorem spread_eq (draw wait : Rat) : spread draw wait = (1 / 2 + draw) * wait := mul_comm _ _

theorem getElem?_waits {count index : Nat} {wait : Rat}
    (there : (retry.waits draw number count)[index]? = some wait) :
    wait = spread (draw (number + index)) (retry.delay (number + index)) := by
  unfold waits at there
  rw [List.getElem?_map, Option.map_eq_some_iff] at there
  rcases there with ⟨place, found, rfl⟩
  have ⟨inside, equal⟩ := List.getElem?_eq_some_iff.mp found
  rw [List.getElem_range', Nat.one_mul] at equal
  rw [equal]

/-- No wait is negative where none of the settings is. -/
theorem delay_nonneg (initial : 0 ≤ retry.initialDelay) (limit : 0 ≤ retry.maxDelay)
    (factor : 0 ≤ retry.factor) : ∀ number, 0 ≤ retry.delay number
  | 0 => initial
  | 1 => initial
  | number + 2 => by
      have before := delay_nonneg initial limit factor (number + 1)
      exact le_min (mul_nonneg before factor) limit

end Retry

/-! ## Attempts of passes -/

namespace Attempt

variable {σ α : Type} {conduct : Conduct Effects σ} {state after : σ} {log : List (Exchange Effects)}
  {retry : Retry} {accepts : Failure → Bool} {action : Pass α} {left number : Nat}
  {outcome : Except Failure α}

/-- Attempts that follow each other, from one number on, with a wait after each but the last one: what was
exchanged on the way, and what each of them came to. -/
inductive Rounds (conduct : Conduct Effects σ) (delay : Nat → Rat) (action : Pass α) :
    Nat → σ → List (Exchange Effects) → List (Except Failure α) → σ → Prop
  | last {number : Nat} {state after : σ} {log : List (Exchange Effects)} {outcome : Except Failure α}
      (concludes : Concludes conduct action state log outcome after) :
      Rounds conduct delay action number state log [outcome] after
  | again {number : Nat} {state between later after : σ} {log rest : List (Exchange Effects)}
      {outcome : Except Failure α} {outcomes : List (Except Failure α)}
      (concludes : Concludes conduct action state log outcome between)
      (waited : conduct between ⟨.pause (delay number), ()⟩ later)
      (rounds : Rounds conduct delay action (number + 1) later rest outcomes after) :
      Rounds conduct delay action number state (log ++ ⟨.pause (delay number), ()⟩ :: rest)
        (outcome :: outcomes) after

/-- Attempts up to the first one that is final, which settles the outcome. -/
def Persists (conduct : Conduct Effects σ) (retry : Retry) (accepts : Failure → Bool) (action : Pass α)
    (number : Nat) (state : σ) (log : List (Exchange Effects)) (outcome : Except Failure α)
    (after : σ) : Prop :=
  ∃ outcomes before, retry.EndsAfter accepts number outcomes before ∧ outcomes.get before = outcome ∧
    Rounds conduct retry.delay action number state log (outcomes.take (before + 1)) after

theorem persists_iff : Persists conduct retry accepts action number state log outcome after ↔
    (retry.Final accepts number outcome ∧ Concludes conduct action state log outcome after) ∨
    ∃ tried between later first rest, ¬ retry.Final accepts number tried ∧
      Concludes conduct action state first tried between ∧
      conduct between ⟨.pause (retry.delay number), ()⟩ later ∧
      Persists conduct retry accepts action (number + 1) later rest outcome after ∧
      log = first ++ ⟨.pause (retry.delay number), ()⟩ :: rest := by
  constructor
  · rintro ⟨outcomes, before, ends, rfl, rounds⟩
    cases before with
    | zero =>
        cases rounds with
        | last concludes => exact .inl ⟨Retry.endsAfter_zero_iff.mp ends, concludes⟩
        | again _ _ rounds => cases rounds
    | succ before =>
        have ⟨further, rest⟩ := Retry.endsAfter_succ_iff.mp ends
        rw [Stream'.take_succ] at rounds
        cases rounds with
        | again concludes waited rounds =>
            exact .inr ⟨_, _, _, _, _, further, concludes, waited,
              ⟨outcomes.tail, before, rest, rfl, rounds⟩, rfl⟩
  · rintro (⟨final, concludes⟩ |
      ⟨tried, between, later, first, rest, further, concludes, waited, persists, rfl⟩)
    · exact ⟨.const outcome, 0, Retry.endsAfter_zero_iff.mpr final, rfl, .last concludes⟩
    · rcases persists with ⟨outcomes, before, ends, same, rounds⟩
      exact ⟨.cons tried outcomes, before + 1, Retry.endsAfter_succ_iff.mpr ⟨further, ends⟩, same,
        .again concludes waited rounds⟩

theorem concludes_retryFrom_succ :
    Concludes conduct (Pass.retryFrom retry accepts action (left + 1) number) state log outcome after ↔
    (retry.goesOn accepts number outcome = false ∧ Concludes conduct action state log outcome after) ∨
    ∃ tried between later first rest, retry.goesOn accepts number tried = true ∧
      Concludes conduct action state first tried between ∧
      conduct between ⟨.pause (retry.delay number), ()⟩ later ∧
      Concludes conduct (Pass.retryFrom retry accepts action left (number + 1)) later rest outcome after ∧
      log = first ++ ⟨.pause (retry.delay number), ()⟩ :: rest := by
  constructor
  · intro concludes
    have ⟨tried, between, first, second, begun, ended, split⟩ := Program.Goes.of_bind concludes
    cases goes : retry.goesOn accepts number tried with
    | false =>
        rw [goes] at ended
        obtain ⟨rfl, rfl, rfl⟩ := ended.of_done
        rw [List.append_nil] at split
        exact .inl ⟨goes, split ▸ begun⟩
    | true =>
        rw [goes] at ended
        cases ended with
        | ask waited further => exact .inr ⟨_, _, _, _, _, goes, begun, waited, further, split⟩
  · rintro (⟨stops, concludes⟩ |
      ⟨tried, between, later, first, rest, goes, concludes, waited, further, rfl⟩)
    · rw [← List.append_nil log]
      refine Program.Goes.append (Program.Goes.bind concludes) ?_
      change Program.Goes conduct (if retry.goesOn accepts number outcome then _ else _) after [] _ after
      rw [stops]
      exact .here _ _
    · refine Program.Goes.append (Program.Goes.bind concludes) ?_
      change Program.Goes conduct (if retry.goesOn accepts number tried then _ else _) between _ _ after
      rw [goes]
      exact .ask waited further

/-- Where attempts are limited, a pass that is tried again comes to what its first final attempt comes to. -/
theorem concludes_retryFrom_iff (limited : 0 < retry.maxAttempts)
    (total : number + left = retry.maxAttempts) :
    Concludes conduct (Pass.retryFrom retry accepts action left number) state log outcome after ↔
      Persists conduct retry accepts action number state log outcome after := by
  induction left generalizing number state log with
  | zero =>
      have final (outcome : Except Failure α) : retry.Final accepts number outcome :=
        .last outcome limited total
      rw [persists_iff]
      constructor
      · intro concludes
        exact .inl ⟨final outcome, concludes⟩
      · rintro (⟨_, concludes⟩ | ⟨tried, _, _, _, _, further, _⟩)
        · exact concludes
        · exact (further (final tried)).elim
  | succ left induction =>
      have allowed : retry.Allows number := fun _ => by omega
      rw [concludes_retryFrom_succ, persists_iff]
      have rest (later : σ) (log : List (Exchange Effects)) :
          Concludes conduct (Pass.retryFrom retry accepts action left (number + 1)) later log outcome after ↔
            Persists conduct retry accepts action (number + 1) later log outcome after :=
        induction (by omega)
      simp only [Retry.goesOn_eq_false_iff allowed, Retry.goesOn_iff allowed, rest]

theorem concludes_retry_iff (limited : 0 < retry.maxAttempts) :
    Concludes conduct (Pass.retry retry accepts action) state log outcome after ↔
      Persists conduct retry accepts action 1 state log outcome after :=
  concludes_retryFrom_iff limited (by omega)

end Attempt

namespace Retry

variable {ε α : Type} {retry : Retry} {accepts : ε → Bool} {draw : Nat → Rat}
  {outcomes : Stream' (Except ε α)}

/-- As long as the attempts have not come to an end there is always another one. -/
theorem follow_of_unended {given : Nat}
    (unended : ∀ before < given, ¬ retry.EndsAfter accepts 1 outcomes before) :
    retry.follow accepts draw 1 (outcomes.take given) = ⟨none, given, retry.waits draw 1 given⟩ := by
  refine follow_of_further id fun before sooner final => ?_
  have ⟨least, within, ends⟩ := exists_endsAfter_le final
  exact unended least (by omega) ends

/-- The waits of a course are those after its attempts, in order. -/
theorem exists_waits (retry : Retry) (accepts : ε → Bool) (draw : Nat → Rat)
    (outcomes : Stream' (Except ε α)) (given : Nat) :
    ∃ count, (retry.follow accepts draw 1 (outcomes.take given)).waits = retry.waits draw 1 count := by
  by_cases unended : ∀ before < given, ¬ retry.EndsAfter accepts 1 outcomes before
  · exact ⟨given, by rw [follow_of_unended unended]⟩
  · simp only [not_forall, not_not] at unended
    rcases unended with ⟨before, sooner, ends⟩
    exact ⟨before, by rw [follow_of_endsAfter id ends sooner]⟩

/-- Attempts are made up to the first one that is final, and what it came to is what all of them come to; there
is one wait less than there are attempts. Until then there is always another attempt, and if attempts are
limited one of those allowed is final. Each wait takes at least half of the time planned for it and less than
one and a half of it, and the time planned is multiplied by the factor after each wait, up to the longest one.
Passes that are tried again go through such attempts, with a wait between any two and none after the last. -/
theorem attempts_bounded (retry : Retry) (accepts : ε → Bool) (draw : Nat → Rat)
    (outcomes : Stream' (Except ε α)) (drawn : ∀ number, 0 ≤ draw number ∧ draw number < 1)
    (initial : 0 ≤ retry.initialDelay) (limit : 0 ≤ retry.maxDelay) (factor : 0 ≤ retry.factor) :
    (∀ before, retry.EndsAfter accepts 1 outcomes before → ∀ given, before < given →
      (retry.follow accepts draw 1 (outcomes.take given)).Totals (some (outcomes.get before))
        (before + 1) before) ∧
    (∀ given, (∀ before < given, ¬ retry.EndsAfter accepts 1 outcomes before) →
      (retry.follow accepts draw 1 (outcomes.take given)).Totals none given given) ∧
    (0 < retry.maxAttempts → ∃ before < retry.maxAttempts, retry.EndsAfter accepts 1 outcomes before) ∧
    (∀ given index wait,
      (retry.follow accepts draw 1 (outcomes.take given)).waits[index]? = some wait →
      0 ≤ retry.delay (index + 1) ∧
        ∃ jitter, 1 / 2 ≤ jitter ∧ jitter < 3 / 2 ∧ wait = jitter * retry.delay (index + 1)) ∧
    (retry.delay 1 = retry.initialDelay ∧ ∀ number, 1 ≤ number →
      retry.delay (number + 1) = min (retry.delay number * retry.factor) retry.maxDelay) ∧
    (0 < retry.maxAttempts → ∀ {σ β : Type} (conduct : Conduct Effects σ) (worth : Failure → Bool)
      (action : Pass β) (state : σ) (log : List (Exchange Effects)) (outcome : Except Failure β) (after : σ),
      Attempt.Concludes conduct (Pass.retry retry worth action) state log outcome after ↔
        Persists conduct retry worth action 1 state log outcome after) := by
  refine ⟨?_, ?_, fun limited => exists_endsAfter limited outcomes, ?_, ⟨rfl, ?_⟩,
    fun limited _ _ _ _ _ _ _ _ _ => concludes_retry_iff limited⟩
  · intro before ends given enough
    rw [follow_of_endsAfter id ends enough]
    exact ⟨rfl, rfl, length_waits before⟩
  · intro given unended
    rw [follow_of_unended unended]
    exact ⟨rfl, rfl, length_waits given⟩
  · intro given index wait there
    have ⟨count, waits⟩ := exists_waits retry accepts draw outcomes given
    rw [waits] at there
    have spread := getElem?_waits there
    rw [spread_eq, Nat.add_comm 1 index] at spread
    have ⟨least, most⟩ := drawn (index + 1)
    refine ⟨delay_nonneg initial limit factor _, 1 / 2 + draw (index + 1), ?_, ?_, spread⟩
    · linarith
    · linarith
  · intro number counted
    cases number with
    | zero => cases counted
    | succ number => rfl

/-- There are conflicts all along; the third attempt is the last that is allowed, and its failure is the one that
is kept. -/
theorem attempts_bounded_in_the_way :
    let retry : Retry := ⟨3, 50, 80, 2⟩
    let draw : Nat → Rat := fun _ => 3 / 4
    let outcomes : Stream' (Except Failure Unit) := fun number => .error (.conflict (toString number))
    ((∀ number, 0 ≤ draw number ∧ draw number < 1) ∧ 0 ≤ retry.initialDelay ∧ 0 ≤ retry.maxDelay ∧
        0 ≤ retry.factor) ∧
      (retry.follow Failure.isConflict draw 1 (outcomes.take 5)).Totals (some (.error (.conflict "2"))) 3 2 ∧
      (∃ jitter, 1 / 2 ≤ jitter ∧ jitter < 3 / 2 ∧ 100 = jitter * retry.delay 2) ∧
      Attempt.Concludes (Conduct.free Effects) (Pass.retry retry Failure.isConflict (throw (.conflict "web")))
        () [⟨.pause 50, ()⟩, ⟨.pause 80, ()⟩] (.error (.conflict "web") : Except Failure Unit) () := by
  intro retry draw outcomes
  have drawn : ∀ number, 0 ≤ draw number ∧ draw number < 1 := fun _ => by decide +kernel
  have initial : 0 ≤ retry.initialDelay := by decide +kernel
  have limit : 0 ≤ retry.maxDelay := by decide +kernel
  have factor : 0 ≤ retry.factor := by decide +kernel
  have ends (texts : Nat → String) : retry.EndsAfter Failure.isConflict 1
      (fun number => .error (.conflict (texts number)) : Stream' (Except Failure Unit)) 2 := by
    refine ⟨.last _ (by decide) rfl, fun earlier sooner => ?_⟩
    have allowed : retry.Allows (1 + earlier) := fun _ => by
      change 1 + earlier ≤ 3
      omega
    -- The two attempts before the last one are conflicts, and more are allowed after them.
    rw [← goesOn_iff allowed]
    match earlier, sooner with
    | 0, _ => rfl
    | 1, _ => rfl
  have ⟨settles, _, _, waits, _, passes⟩ :=
    attempts_bounded retry Failure.isConflict draw outcomes drawn initial limit factor
  refine ⟨⟨drawn, initial, limit, factor⟩, settles 2 (ends _) 5 (by decide), ?_, ?_⟩
  · exact (waits 5 1 100 (by decide +kernel)).2
  · have longest : retry.delay 2 = 80 := by decide +kernel
    rw [← longest]
    refine (passes (by decide) _ _ _ _ _ _ _).mpr ⟨_, 2, ends fun _ => "web", rfl, ?_⟩
    have fails : Attempt.Concludes (Conduct.free Effects) (throw (.conflict "web") : Pass Unit) () []
        (.error (.conflict "web")) () := .here _ _
    exact .again fails trivial (.again fails trivial (.last fails))

end Retry
end ProxyOperator
