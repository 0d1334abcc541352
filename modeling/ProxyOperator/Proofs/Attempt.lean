import ProxyOperator.Proofs.Conduct
import ProxyOperator.Reconcile.Basic
/-!
Attempts: parts of passes, which end with a value or with a failure. What they live up to is said
apart for the two ends, and follows the way attempts are put together.
-/
namespace ProxyOperator

abbrev Attempt (ε α : Type) := ExceptT ε (Program Effects) α

namespace Attempt

variable {ε ε' α β σ : Type}

/-- One statement for each of the two ends of an attempt. -/
def Ends (ok : α → σ → Prop) (fail : ε → σ → Prop) : Except ε α → σ → Prop
  | .ok value, after => ok value after
  | .error failure, after => fail failure after

/-- Every exchange of an attempt lives up to `step`, its success to `ok` and its failure to `fail`. -/
def Meets (conduct : Conduct Effects σ) (step : σ → Exchange Effects → σ → Prop)
    (ok : α → σ → Prop) (fail : ε → σ → Prop) (attempt : Attempt ε α) (state : σ) : Prop :=
  Program.Meets conduct step (Ends ok fail) attempt.run state

def Asks (allowed : Effects.Request → Prop) (attempt : Attempt ε α) : Prop :=
  Program.Asks allowed attempt.run

section

variable {conduct : Conduct Effects σ} {step : σ → Exchange Effects → σ → Prop}
  {ok : α → σ → Prop} {fail : ε → σ → Prop} {state : σ}

namespace Meets

theorem mono {attempt : Attempt ε α} {weaker : α → σ → Prop} {laxer : ε → σ → Prop}
    (implies : ∀ value after, ok value after → weaker value after)
    (failing : ∀ failure after, fail failure after → laxer failure after)
    (meets : Meets conduct step ok fail attempt state) :
    Meets conduct step weaker laxer attempt state := by
  refine Program.Meets.mono (fun outcome after ends => ?_) meets
  cases outcome with
  | ok value => exact implies value after ends
  | error failure => exact failing failure after ends

theorem pure {value : α} (holds : ok value state) :
    Meets conduct step ok fail (Pure.pure value : Attempt ε α) state := holds

theorem throw {failure : ε} (holds : fail failure state) :
    Meets conduct step ok fail (MonadExcept.throw failure : Attempt ε α) state := holds

theorem bind {attempt : Attempt ε α} {next : α → Attempt ε β} {ok : β → σ → Prop}
    (meets : Meets conduct step (fun value after => Meets conduct step ok fail (next value) after)
      fail attempt state) :
    Meets conduct step ok fail (attempt >>= next) state := by
  refine Program.Meets.bind (Program.Meets.mono (fun outcome after ends => ?_) meets)
  cases outcome with
  | ok value => exact ends
  | error failure => exact ends

/-- What an attempt lives up to whatever its end is, for one whose end is looked at. -/
theorem outcome {attempt : Attempt ε α} {ok : Except ε α → σ → Prop} {fail : ε' → σ → Prop}
    (meets : Meets conduct step (fun value after => ok (.ok value) after)
      (fun failure after => ok (.error failure) after) attempt state) :
    Meets conduct step ok fail (ExceptT.lift attempt.run : Attempt ε' (Except ε α)) state := by
  refine Program.Meets.bind (Program.Meets.mono (fun outcome after ends => ?_) meets)
  cases outcome with
  | ok value => exact ends
  | error failure => exact ends

theorem staged {stage : Stage} {pass : Pass α} {fail : StageFailure → σ → Prop}
    (meets : Meets conduct step ok (fun failure after => fail ⟨stage, failure⟩ after) pass state) :
    Meets conduct step ok fail (stage.run pass) state := by
  refine Program.Meets.bind (Program.Meets.mono (fun outcome after ends => ?_) meets)
  cases outcome with
  | ok value => exact ends
  | error failure => exact ends

theorem publish {event : Event} {ok : Unit → σ → Prop} {fail : Failure → σ → Prop}
    (meets : ∀ after, conduct state ⟨.publish event, ()⟩ after →
      step state ⟨.publish event, ()⟩ after ∧ ok () after) :
    Meets conduct step ok fail (Pass.publish event) state :=
  fun _ after answered => meets after answered

theorem remote {session : Remote.Session} {request : Remote.Request}
    {ok : request.Result → σ → Prop} {fail : Failure → σ → Prop}
    (answers : ∀ value after, conduct state ⟨.remote session request, .ok value⟩ after →
      step state ⟨.remote session request, .ok value⟩ after ∧ ok value after)
    (fails : ∀ failure after, conduct state ⟨.remote session request, .error failure⟩ after →
      step state ⟨.remote session request, .error failure⟩ after ∧ fail failure after) :
    Meets conduct step ok fail ((Effect.remote session request).ask : Pass request.Result) state := by
  intro answer after answered
  cases answer with
  | ok value => exact answers value after answered
  | error failure => exact fails failure after answered

/-- Attempts that may follow each other all begin where `again` holds: at the start, and after a failure
that is worth another attempt and the wait for it. -/
theorem retry {policy : Retry} {accepts : Failure → Bool} {action : Pass α} {again : σ → Prop}
    {fail : Failure → σ → Prop}
    (attempt : ∀ before, again before →
      Meets conduct step ok
        (fun failure after => fail failure after ∧ (accepts failure = true → again after))
        action before)
    (wait : ∀ before time after, again before → conduct before ⟨.pause time, ()⟩ after →
      step before ⟨.pause time, ()⟩ after ∧ again after)
    (start : again state) : Meets conduct step ok fail (Pass.retry policy accepts action) state := by
  have rounds : ∀ left number before, again before →
      Meets conduct step ok fail (Pass.retryFrom policy accepts action left number) before := by
    intro left
    induction left with
    | zero =>
        intro number before holds
        exact (attempt before holds).mono (fun _ _ ends => ends) fun _ _ ends => ends.1
    | succ left induction =>
        intro number before holds
        refine Program.Meets.bind (Program.Meets.mono (fun outcome after ends => ?_)
          (attempt before holds))
        cases outcome with
        | ok value => exact ends
        | error failure =>
            split
            · next more =>
              have accepted : accepts failure = true := (Bool.and_eq_true_iff.mp more).1
              intro answer later waited
              have ⟨kept, ready⟩ := wait after _ later (ends.2 accepted) waited
              exact ⟨kept, induction (number + 1) later ready⟩
            · exact ends.1
  exact rounds _ _ state start

end Meets
end

/-! ## What attempts ask -/

namespace Asks

variable {allowed : Effect → Prop}

theorem pure {value : α} : Asks allowed (Pure.pure value : Attempt ε α) := trivial

theorem throw {failure : ε} : Asks allowed (MonadExcept.throw failure : Attempt ε α) := trivial

theorem bind {attempt : Attempt ε α} {next : α → Attempt ε β} (first : Asks allowed attempt)
    (rest : ∀ value, Asks allowed (next value)) : Asks allowed (attempt >>= next) := by
  refine Program.Asks.bind first fun outcome => ?_
  cases outcome with
  | ok value => exact rest value
  | error failure => trivial

theorem mono {wider : Effect → Prop} {attempt : Attempt ε α}
    (implies : ∀ effect, allowed effect → wider effect) (asks : Asks allowed attempt) :
    Asks wider attempt :=
  Program.Asks.mono implies asks

theorem outcome {attempt : Attempt ε α} (asks : Asks allowed attempt) :
    Asks allowed (ExceptT.lift attempt.run : Attempt ε' (Except ε α)) :=
  Program.Asks.bind asks fun _ => trivial

theorem staged {stage : Stage} {pass : Pass α} (asks : Asks allowed pass) :
    Asks allowed (stage.run pass) := by
  refine Program.Asks.bind asks fun outcome => ?_
  cases outcome with
  | ok value => trivial
  | error failure => trivial

theorem demand {failure : Failure} {value : Option α} :
    Asks allowed (Pass.demand failure value) := by
  cases value with
  | none => trivial
  | some value => trivial

theorem doIf {condition : Prop} [Decidable condition] {first : Attempt ε Unit}
    {next : Unit → Attempt ε β} (asks : Asks allowed first)
    (rest : ∀ done, Asks allowed (next done)) :
    Asks allowed (if condition then first >>= next else next ()) := by
  split
  · exact bind asks rest
  · exact rest ()

theorem doUnless {condition : Prop} [Decidable condition] {first : Attempt ε Unit}
    {next : Unit → Attempt ε β} (asks : Asks allowed first)
    (rest : ∀ done, Asks allowed (next done)) :
    Asks allowed (if condition then next () else first >>= next) := by
  split
  · exact rest ()
  · exact bind asks rest

theorem mapM_of_mem {item : α → Attempt ε β} {values : List α}
    (each : ∀ value ∈ values, Asks allowed (item value)) : Asks allowed (values.mapM item) := by
  induction values with
  | nil => exact .pure
  | cons value rest induction =>
      rw [List.mapM_cons]
      refine .bind (each value (.head _)) fun _ => ?_
      exact .bind (induction fun other inside => each other (.tail _ inside)) fun _ => .pure

theorem mapM {item : α → Attempt ε β} (each : ∀ value, Asks allowed (item value))
    (values : List α) : Asks allowed (values.mapM item) :=
  mapM_of_mem fun value _ => each value

theorem retry {policy : Retry} {accepts : Failure → Bool} {action : Pass α}
    (waits : ∀ time, allowed (.pause time)) (asks : Asks allowed action) :
    Asks allowed (Pass.retry policy accepts action) := by
  have rounds : ∀ left number, Asks allowed (Pass.retryFrom policy accepts action left number) := by
    intro left
    induction left with
    | zero => exact fun _ => asks
    | succ left induction =>
        intro number
        refine Program.Asks.bind asks fun outcome => ?_
        split
        · exact ⟨waits _, fun _ => induction (number + 1)⟩
        · trivial
  exact rounds _ _

end Asks

/-- An attempt of harmless requests keeps what each of them keeps, whatever its end is. -/
theorem Meets.of_asks {conduct : Conduct Effects σ} {step : σ → Exchange Effects → σ → Prop}
    {allowed : Effect → Prop} {stays : σ → Prop} {attempt : Attempt ε α} {state : σ}
    (asks : Asks allowed attempt)
    (keeps : ∀ before exchange after, allowed exchange.request → stays before →
      conduct before exchange after → step before exchange after ∧ stays after)
    (start : stays state) :
    Meets conduct step (fun _ after => stays after) (fun _ after => stays after) attempt state := by
  refine Program.Meets.mono (fun outcome after ends => ?_) (Program.Meets.of_asks asks keeps start)
  cases outcome with
  | ok value => exact ends
  | error failure => exact ends

end Attempt

end ProxyOperator
