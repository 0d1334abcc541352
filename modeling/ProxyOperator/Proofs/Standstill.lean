import Mathlib.Data.List.Forall2
import ProxyOperator.Proofs.Attempt
/-!
Attempts in a world at a standstill, which answers a request always in the same way. There an attempt
comes down to its outcome.
-/
namespace ProxyOperator

/-- A world that stands still: an answer to every request. -/
abbrev Standstill := (request : Effect) → request.Answer

def Standstill.barren : Standstill
  | .read _ _ | .list _ _ | .writeStatus _ _ _ _ | .addFinalizer _ _ | .removeFinalizer _ _
  | .secret _ | .service _ | .pods _ _ | .node _ | .connect _ | .requestToken _ _ _
  | .remote _ _ => .error default
  | .publish _ | .pause _ => ()

namespace Attempt

variable {ε α β : Type}

/-- What an attempt comes down to in a world that stands still. -/
def under (world : Standstill) (attempt : Attempt ε α) : Except ε α :=
  Program.run (m := Id) world attempt.run

variable {world : Standstill}

@[simp] theorem under_pure (value : α) :
    under world (pure value : Attempt ε α) = .ok value := rfl

theorem under_bind (attempt : Attempt ε α) (next : α → Attempt ε β) :
    under world (attempt >>= next) =
      (under world attempt).bind fun value => under world (next value) := by
  refine (Program.run_bind (m := Id) world attempt.run _).trans ?_
  unfold under
  cases Program.run (m := Id) world attempt.run <;> rfl

theorem exists_under (world : Standstill) (attempt : Attempt ε α)
    (succeeds : (under world attempt).toOption.isSome) :
    ∃ value, under world attempt = .ok value := by
  rcases Option.isSome_iff_exists.mp succeeds with ⟨value, known⟩
  exact ⟨value, Except.eq_ok_of_toOption known⟩

/-- Where two attempts one after the other come to a value, the first one comes to one. -/
theorem under_bind_eq_ok {attempt : Attempt ε α} {next : α → Attempt ε β} {result : β} :
    under world (attempt >>= next) = .ok result ↔
      ∃ value, under world attempt = .ok value ∧ under world (next value) = .ok result := by
  rw [under_bind]
  exact Except.bind_eq_ok

/-- Worlds that answer alike what an attempt may ask are the same to it. -/
theorem under_congr {other : Standstill} {asked : Effect → Prop} {attempt : Attempt ε α}
    (asks : Asks asked attempt) (same : ∀ effect, asked effect → world effect = other effect) :
    under world attempt = under other attempt := by
  have rest : ∀ program : Program Effects (Except ε α), Program.Asks asked program →
      Program.run (m := Id) world program = Program.run (m := Id) other program := by
    intro program
    induction program with
    | done => exact fun _ => rfl
    | ask effect next induction =>
        intro asks
        have answered := same effect asks.1
        change Program.run (m := Id) world (next (world effect)) =
          Program.run (m := Id) other (next (other effect))
        rw [answered]
        exact induction _ (asks.2 _)
  exact rest attempt.run asks

theorem under_mapM_congr {first second : α → Attempt ε β} {values : List α}
    (same : ∀ value ∈ values, under world (first value) = under world (second value)) :
    under world (values.mapM first) = under world (values.mapM second) := by
  induction values with
  | nil => rfl
  | cons value rest induction =>
      rw [List.mapM_cons, List.mapM_cons, under_bind, under_bind, same value (.head _)]
      refine congrArg _ (funext fun result => ?_)
      rw [under_bind, under_bind, induction fun other member => same other (.tail _ member)]

/-- Where attempts for all values of a list come to values, each of them does. -/
theorem under_mapM_eq_ok {item : α → Attempt ε β} {values : List α} {results : List β} :
    under world (values.mapM item) = .ok results ↔
      List.Forall₂ (fun value result => under world (item value) = .ok result) values results := by
  induction values generalizing results with
  | nil =>
      rw [List.mapM_nil, List.forall₂_nil_left_iff, under_pure]
      exact ⟨fun same => (Except.ok.inj same).symm, fun same => congrArg _ same.symm⟩
  | cons value rest induction =>
      rw [List.mapM_cons, under_bind_eq_ok]
      constructor
      · rintro ⟨first, ends, further⟩
        rcases under_bind_eq_ok.mp further with ⟨others, rests, same⟩
        rcases Except.ok.inj same with rfl
        exact .cons ends (induction.mp rests)
      · rintro (_ | ⟨ends, rests⟩)
        exact ⟨_, ends, under_bind_eq_ok.mpr ⟨_, induction.mpr rests, rfl⟩⟩

/-- Attempts for all values of a list come to values just if each of them does. -/
theorem exists_under_mapM {item : α → Attempt ε β} {values : List α} :
    (∃ results, under world (values.mapM item) = .ok results) ↔
      ∀ value ∈ values, ∃ result, under world (item value) = .ok result := by
  simp only [under_mapM_eq_ok]
  induction values with
  | nil => simp
  | cons value rest induction =>
      rw [List.forall_mem_cons, ← induction]
      constructor
      · intro all
        rcases all with ⟨_, _ | ⟨first, others⟩⟩
        exact ⟨⟨_, first⟩, ⟨_, others⟩⟩
      · intro all
        rcases all with ⟨⟨_, first⟩, ⟨_, others⟩⟩
        exact ⟨_, .cons first others⟩

/-- Where all requests are answered by a world that stands still, an attempt comes to what it comes to in that
world; and what each request keeps is kept. -/
theorem Meets.standing {σ : Type} {conduct : Conduct Effects σ} {step : σ → Exchange Effects → σ → Prop}
    {allowed : Effect → Prop} {stays : σ → Prop} {attempt : Attempt ε α} {state : σ}
    (asks : Asks allowed attempt)
    (keeps : ∀ before exchange after, allowed exchange.request → stays before →
      conduct before exchange after →
      step before exchange after ∧ stays after ∧ exchange.answer = world exchange.request)
    (start : stays state) :
    Meets conduct step (fun value after => under world attempt = .ok value ∧ stays after)
      (fun failure after => under world attempt = .error failure ∧ stays after) attempt state := by
  have rest : ∀ program : Program Effects (Except ε α), ∀ state, Program.Asks allowed program →
      stays state →
      Program.Meets conduct step (fun outcome after => Program.run (m := Id) world program = outcome ∧
        stays after) program state := by
    intro program
    induction program with
    | done outcome => exact fun state _ stays => ⟨rfl, stays⟩
    | ask effect next induction =>
        intro state asks stays answer after answered
        have ⟨kept, stayed, same⟩ := keeps state _ after asks.1 stays answered
        have known : answer = world effect := same
        subst known
        apply And.intro kept
        exact induction _ after (asks.2 _) stayed
  refine Program.Meets.mono (fun outcome after ends => ?_) (rest attempt.run state asks start)
  cases outcome with
  | ok value => exact ends
  | error failure => exact ends

end Attempt

end ProxyOperator
