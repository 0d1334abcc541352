import ProxyOperator.Proofs.Logs
import ProxyOperator.Proofs.Requests
/-!
Rules for the frame that all passes have in common: parts that are of no concern come before the part that
is, and whatever that part ends with is written down.
-/
namespace ProxyOperator

open Reconcile

/-- What is told about a pass that stopped. -/
def Reconcile.failureEvent {kind : Kind} (resource : Resource kind) (stopped : StageFailure) : Event :=
  ⟨resource.reference, .warning, Event.syncFailed, Event.reconcile, some stopped.text⟩

namespace Attempt

variable {ε α β σ : Type} {conduct : Conduct Effects σ} {step : σ → Exchange Effects → σ → Prop}
  {state : σ}

/-- What an attempt of harmless requests finds is still there for what comes after it. -/
theorem Meets.bind_asks {ok : β → σ → Prop} {fail : ε → σ → Prop} {allowed : Effect → Prop}
    {stays : σ → Prop} {attempt : Attempt ε α} {next : α → Attempt ε β}
    (keeps : ∀ before exchange after, allowed exchange.request → stays before →
      conduct before exchange after → step before exchange after ∧ stays after)
    (fails : ∀ failure after, stays after → fail failure after)
    (asks : Asks allowed attempt) (start : stays state)
    (further : ∀ value after, stays after → Meets conduct step ok fail (next value) after) :
    Meets conduct step ok fail (attempt >>= next) state := by
  apply Meets.bind
  exact (Meets.of_asks asks keeps start).mono further fails

theorem Meets.demand {failure : Failure} {value : Option α} {ok : α → σ → Prop}
    {fail : Failure → σ → Prop} (found : ∀ content, value = some content → ok content state)
    (missing : value = none → fail failure state) :
    Meets conduct step ok fail (Pass.demand failure value) state := by
  cases value with
  | none => exact missing rfl
  | some content => exact found content rfl

theorem Meets.orFail {result : Except Failure α} {ok : α → σ → Prop} {fail : Failure → σ → Prop}
    (succeeds : ∀ value, result = .ok value → ok value state)
    (fails : ∀ failure, result = .error failure → fail failure state) :
    Meets conduct step ok fail (Reconcile.orFail result) state := by
  cases result with
  | ok value => exact succeeds value rfl
  | error failure => exact fails failure rfl

section

variable {kind : Kind} {context : Context} {resource : Resource kind} {ok : Action → σ → Prop}
  {fail : Failure → σ → Prop}

/-- A pass comes to an outcome and goes on with it, or it stops, tells so, writes down why, if it can, and
fails. -/
theorem Meets.finishTold {converge : Staged α} {succeed : α → Pass Action}
    {stops : StageFailure → σ → Prop}
    (converges : Meets conduct step
      (fun outcome after => Meets conduct step ok fail (succeed outcome) after) stops converge state)
    (tells : ∀ stopped before after, stops stopped before →
      conduct before ⟨.publish (failureEvent resource stopped), ()⟩ after →
      step before ⟨.publish (failureEvent resource stopped), ()⟩ after ∧ stops stopped after)
    (records : ∀ stopped before, stops stopped before →
      Meets conduct step (fun _ after => fail stopped.failure after)
        (fun _ after => fail stopped.failure after)
        (updateStatus context kind resource.metadata.spokenKey <| kind.mapConditions <|
          Condition.markError context.stamp resource.metadata.generation stopped.stage.reason
            stopped.failure.message)
        before) :
    Meets conduct step ok fail (Reconcile.finish context resource converge succeed) state := by
  have gives_up : ∀ stopped before, stops stopped before → Meets conduct step ok fail
      (recordFailure context resource stopped >>= fun _ => MonadExcept.throw stopped.failure)
      before := by
    intro stopped before held
    apply Meets.bind
    apply Meets.bind
    apply Meets.outcome
    exact (records stopped before held).mono (fun _ _ failed => failed) fun _ _ failed => failed
  apply Meets.bind
  apply Meets.outcome
  refine converges.mono (fun outcome after ends => ends) fun stopped after held => ?_
  dsimp only
  split
  · apply Meets.bind
    apply Meets.publish
    intro later told
    have ⟨kept, still⟩ := tells stopped after later held told
    exact ⟨kept, gives_up stopped later still⟩
  · exact gives_up stopped after held

/-- The same where it does not matter what is told. -/
theorem Meets.finishMarked {converge : Staged α} {succeed : α → Pass Action}
    {stops : StageFailure → σ → Prop}
    (converges : Meets conduct step
      (fun outcome after => Meets conduct step ok fail (succeed outcome) after) stops converge state)
    (tells : ∀ stopped event before after, stops stopped before →
      conduct before ⟨.publish event, ()⟩ after →
      step before ⟨.publish event, ()⟩ after ∧ stops stopped after)
    (records : ∀ stopped before, stops stopped before →
      Meets conduct step (fun _ after => fail stopped.failure after)
        (fun _ after => fail stopped.failure after)
        (updateStatus context kind resource.metadata.spokenKey <| kind.mapConditions <|
          Condition.markError context.stamp resource.metadata.generation stopped.stage.reason
            stopped.failure.message)
        before) :
    Meets conduct step ok fail (Reconcile.finish context resource converge succeed) state :=
  .finishTold converges (fun stopped => tells stopped _) records

/-- The same where it does not matter what is written down. -/
theorem Meets.finish {converge : Staged α} {succeed : α → Pass Action}
    {stops : StageFailure → σ → Prop}
    (converges : Meets conduct step
      (fun outcome after => Meets conduct step ok fail (succeed outcome) after) stops converge state)
    (tells : ∀ stopped event before after, stops stopped before →
      conduct before ⟨.publish event, ()⟩ after →
      step before ⟨.publish event, ()⟩ after ∧ stops stopped after)
    (records : ∀ stopped before, stops stopped before → ∀ change : List Condition → List Condition,
      Meets conduct step (fun _ after => fail stopped.failure after)
        (fun _ after => fail stopped.failure after)
        (updateStatus context kind resource.metadata.spokenKey (kind.mapConditions change)) before) :
    Meets conduct step ok fail (Reconcile.finish context resource converge succeed) state :=
  .finishMarked converges tells fun stopped before held => records stopped before held _

end

/-- A status is changed as it was read, and anew after another writer was faster. Each attempt begins where
`again` holds, and nothing is changed where the resource is gone. -/
theorem Meets.updateConflicted {kind : Kind} {key : ObjectKey} {context : Context}
    {change : kind.Status → kind.Status} {again : σ → Prop} {ok : Unit → σ → Prop}
    {fail : Failure → σ → Prop} (shown : Resource kind → σ → Prop)
    (pauses : ∀ time before after, again before → conduct before ⟨.pause time, ()⟩ after →
      step before ⟨.pause time, ()⟩ after ∧ again after)
    (reads : ∀ answer before after, again before → conduct before ⟨.read kind key, answer⟩ after →
      step before ⟨.read kind key, answer⟩ after ∧
        Ends (fun found after => found.elim (ok () after) (shown · after))
          (fun failure after => fail failure after ∧ (failure.isConflict = true → again after))
          answer after)
    (writes : ∀ latest revision answer before after, shown latest before →
      conduct before ⟨.writeStatus kind key revision (change latest.statusOrEmpty), answer⟩ after →
      step before ⟨.writeStatus kind key revision (change latest.statusOrEmpty), answer⟩ after ∧
        Ends ok
          (fun failure after => fail failure after ∧ (failure.isConflict = true → again after))
          answer after)
    (start : again state) :
    Meets conduct step ok fail (Reconcile.updateStatus context kind key change) state := by
  refine Meets.retry (fun before begun => ?_)
    (fun before time after begun paused => pauses time before after begun paused) start
  apply Meets.bind
  intro answer between read
  have ⟨kept, ends⟩ := reads answer before between begun read
  apply And.intro kept
  cases answer with
  | error failure => exact ends
  | ok found =>
      cases found with
      | none => exact ends
      | some latest =>
          intro answer after written
          have ⟨kept, ends⟩ := writes latest _ answer between after ends written
          apply And.intro kept
          cases answer with
          | ok _ => exact ends
          | error failure => exact ends

/-- The same where a new attempt could be made after any failure. -/
theorem Meets.updateStatus {kind : Kind} {key : ObjectKey} {context : Context}
    {change : kind.Status → kind.Status} {again : σ → Prop} {ok : Unit → σ → Prop}
    {fail : Failure → σ → Prop} (shown : Resource kind → σ → Prop)
    (pauses : ∀ time before after, again before → conduct before ⟨.pause time, ()⟩ after →
      step before ⟨.pause time, ()⟩ after ∧ again after)
    (reads : ∀ answer before after, again before → conduct before ⟨.read kind key, answer⟩ after →
      step before ⟨.read kind key, answer⟩ after ∧
        Ends (fun found after => found.elim (ok () after) (shown · after))
          (fun failure after => fail failure after ∧ again after) answer after)
    (writes : ∀ latest revision answer before after, shown latest before →
      conduct before ⟨.writeStatus kind key revision (change latest.statusOrEmpty), answer⟩ after →
      step before ⟨.writeStatus kind key revision (change latest.statusOrEmpty), answer⟩ after ∧
        Ends ok (fun failure after => fail failure after ∧ again after) answer after)
    (start : again state) :
    Meets conduct step ok fail (Reconcile.updateStatus context kind key change) state := by
  have eased {α : Type} {ok : α → σ → Prop} {answer : Except Failure α} {after : σ}
      (ends : Ends ok (fun failure after => fail failure after ∧ again after) answer after) :
      Ends ok (fun failure after => fail failure after ∧ (failure.isConflict = true → again after))
        answer after := by
    cases answer with
    | ok value => exact ends
    | error failure => exact ends.imp_right fun ready _ => ready
  refine .updateConflicted shown pauses (fun answer before after begun read => ?_)
    (fun latest revision answer before after seen written => ?_) start
  · exact (reads answer before after begun read).imp_right eased
  · exact (writes latest revision answer before after seen written).imp_right eased

/-! ## Attempts that live up to something in every state -/

/-- Whatever the state in which it is made, every exchange of an attempt lives up to `step`. -/
def Always (conduct : Conduct Effects σ) (step : σ → Exchange Effects → σ → Prop)
    (attempt : Attempt ε α) : Prop :=
  ∀ state, Meets conduct step (fun _ _ => True) (fun _ _ => True) attempt state

namespace Always

variable {ε' : Type} {attempt : Attempt ε α}

theorem of_asks {allowed : Effect → Prop} (asks : Asks allowed attempt)
    (keeps : ∀ before exchange after, allowed exchange.request → conduct before exchange after →
      step before exchange after) : Always conduct step attempt :=
  fun _ => .of_asks asks (fun _ _ _ permitted _ answered => ⟨keeps _ _ _ permitted answered, trivial⟩)
    trivial

theorem pure {value : α} : Always conduct step (Pure.pure value : Attempt ε α) :=
  fun _ => .pure trivial

theorem throw {failure : ε} : Always conduct step (MonadExcept.throw failure : Attempt ε α) :=
  fun _ => .throw trivial

theorem bind {next : α → Attempt ε β} (first : Always conduct step attempt)
    (rest : ∀ value, Always conduct step (next value)) : Always conduct step (attempt >>= next) :=
  fun state => .bind ((first state).mono (fun value after _ => rest value after) fun _ _ _ => trivial)

theorem outcome (always : Always conduct step attempt) :
    Always conduct step (ExceptT.lift attempt.run : Attempt ε' (Except ε α)) :=
  fun state => .outcome (always state)

theorem staged {stage : Stage} {pass : Pass α} (always : Always conduct step pass) :
    Always conduct step (stage.run pass) :=
  fun state => .staged (always state)

variable {kind : Kind} {context : Context} {resource : Resource kind}

theorem finish {converge : Staged α} {succeed : α → Pass Action}
    (tells : ∀ event before after, conduct before ⟨.publish event, ()⟩ after →
      step before ⟨.publish event, ()⟩ after)
    (records : ∀ change : List Condition → List Condition, Always conduct step
      (updateStatus context kind resource.metadata.spokenKey (kind.mapConditions change)))
    (converges : Always conduct step converge)
    (succeeds : ∀ outcome, Always conduct step (succeed outcome)) :
    Always conduct step (Reconcile.finish context resource converge succeed) := by
  intro state
  apply Meets.finish ((converges state).mono (fun outcome after _ => succeeds outcome after) _)
  · exact fun _ event _ _ _ told => ⟨tells event _ _ told, trivial⟩
  · exact fun _ before _ change => records change before
  · exact fun _ _ _ => trivial

theorem dismiss {cleanup : Option (Pass String)}
    (tells : ∀ event before after, conduct before ⟨.publish event, ()⟩ after →
      step before ⟨.publish event, ()⟩ after)
    (releases : ∀ before answer after,
      conduct before ⟨.removeFinalizer kind resource.metadata.spokenKey, answer⟩ after →
      step before ⟨.removeFinalizer kind resource.metadata.spokenKey, answer⟩ after)
    (cleans : ∀ pass ∈ cleanup, Always conduct step pass) :
    Always conduct step (Reconcile.dismiss resource cleanup) := by
  have farewell : Always conduct step (do
      Pass.removeFinalizer kind resource.metadata.spokenKey
      return Action.awaitChange) := by
    refine .bind (fun state answer after released => ⟨releases _ _ _ released, ?_⟩) fun _ => .pure
    cases answer <;> trivial
  have announces (type : EventType) (reason : String) (note : Option String) :
      Always conduct step (announce resource type reason Event.delete note) :=
    fun state => .publish fun after told => ⟨tells _ _ _ told, trivial⟩
  unfold Reconcile.dismiss
  split
  · unfold release
    cases cleanup with
    | none => exact farewell
    | some pass =>
        refine .bind (.outcome (cleans pass rfl)) fun outcome => ?_
        cases outcome with
        | ok reason => exact .bind (announces _ _ _) fun _ => farewell
        | error failure => exact .bind (announces _ _ _) fun _ => farewell
  · exact .pure

end Always

end Attempt

end ProxyOperator
