import ProxyOperator.Proofs.Conditions
import ProxyOperator.Proofs.Requests
import ProxyOperator.Proofs.Worlds
/-!
What a resource is told when others claimed first what it wants. It is told of one of them, and which one
that is makes a difference to words only: those of the failure, of the event about it and of the conditions
that record it.
-/
namespace ProxyOperator

open Attempt Reconcile

variable {words : String → Prop}

/-! ## What differs in words -/

/-- The same failure, or two refusals of a claim. -/
inductive Failure.Reworded (words : String → Prop) : Failure → Failure → Prop
  | same (failure : Failure) : Reworded words failure failure
  | refused {one other : String} (told : words one) (toldElse : words other) :
      Reworded words (.invalid one) (.invalid other)

inductive StageFailure.Reworded (words : String → Prop) : StageFailure → StageFailure → Prop
  | same (stopped : StageFailure) : Reworded words stopped stopped
  | refused {one other : String} (told : words one) (toldElse : words other) :
      Reworded words ⟨.claim, .invalid one⟩ ⟨.claim, .invalid other⟩

instance : Std.Refl (Failure.Reworded words) := ⟨.same⟩

instance : Std.Refl (StageFailure.Reworded words) := ⟨.same⟩

/-- Events that are the same but for the words of a refusal. -/
inductive Event.Reworded (words : String → Prop) : Event → Event → Prop
  | same (event : Event) : Reworded words event event
  | refused {one other : String} (event : Event) (told : words one) (toldElse : words other) :
      Reworded words { event with note := some (StageFailure.text ⟨.claim, .invalid one⟩) }
        { event with note := some (StageFailure.text ⟨.claim, .invalid other⟩) }

/-- Conditions that are the same but for the words of a refusal. -/
inductive Condition.Reworded (words : String → Prop) : Condition → Condition → Prop
  | same (condition : Condition) : Reworded words condition condition
  | refused {one other : String} (condition : Condition)
      (claimed : condition.reason = Stage.claim.reason) (told : words one) (toldElse : words other) :
      Reworded words { condition with message := (Failure.invalid one).message }
        { condition with message := (Failure.invalid other).message }

/-- Statuses that are the same but for the words of refusals in their conditions. -/
structure Kind.Reworded (words : String → Prop) (kind : Kind) (one other : kind.Status) : Prop where
  rest : kind.mapConditions (fun _ => []) one = kind.mapConditions (fun _ => []) other
  conditions :
    List.Forall₂ (Condition.Reworded words) (kind.conditions one) (kind.conditions other)

structure Resource.Reworded (words : String → Prop) {kind : Kind} (one other : Resource kind) :
    Prop where
  metadata : one.metadata = other.metadata
  spec : one.spec = other.spec
  status : Option.Rel (kind.Reworded words) one.status other.status

/-- Requests that are the same but for the words of a refusal: these are told of in an event, or stored in a
status. -/
inductive Effect.Reworded (words : String → Prop) : Effect → Effect → Prop
  | same (effect : Effect) : Reworded words effect effect
  | publish {one other : Event} (told : one.Reworded words other) :
      Reworded words (.publish one) (.publish other)
  | write {kind : Kind} {key : ObjectKey} {revision : Option String} {one other : kind.Status}
      (stored : kind.Reworded words one other) :
      Reworded words (.writeStatus kind key revision one) (.writeStatus kind key revision other)

theorem Stay.Alike.reworded {σ α β : Type} {states : σ → σ → Prop} {ends : α → β → Prop}
    {one : Stay σ α} {other : Stay σ β} (alike : one.Alike Eq states ends other) :
    one.Alike (Effect.Reworded words) states ends other :=
  alike.mono (fun _ _ same => same ▸ .same _) (fun _ _ => id) fun _ _ => id

/-- Ends that differ in words at most are the same, or both are refusals of a claim. -/
theorem Attempt.Matches.eq_or_refused {α : Type} {one other : Except StageFailure α}
    (ends : Matches Eq (StageFailure.Reworded words) one other) :
    one = other ∨ ∃ text textElse, words text ∧ words textElse ∧
      one = .error ⟨.claim, .invalid text⟩ ∧ other = .error ⟨.claim, .invalid textElse⟩ := by
  cases ends with
  | ok same => exact .inl (congrArg Except.ok same)
  | error reworded =>
      cases reworded with
      | same => exact .inl rfl
      | refused told toldElse => exact .inr ⟨_, _, told, toldElse, rfl, rfl⟩

namespace Condition.Reworded

variable {one other : Condition}

theorem type_eq (reworded : one.Reworded words other) : one.type = other.type := by
  cases reworded <;> rfl

theorem status_eq (reworded : one.Reworded words other) : one.status = other.status := by
  cases reworded <;> rfl

theorem lastTransition_eq (reworded : one.Reworded words other) :
    one.lastTransition = other.lastTransition := by
  cases reworded <;> rfl

theorem since (reworded : one.Reworded words other) (time : Instant) :
    Reworded words { one with lastTransition := time } { other with lastTransition := time } := by
  cases reworded with
  | same => exact .same _
  | refused condition claimed told toldElse =>
      exact .refused { condition with lastTransition := time } claimed told toldElse

end Condition.Reworded

namespace Condition

variable {conditions others : List Condition}

theorem reworded_set {first second : Condition}
    (reworded : List.Forall₂ (Condition.Reworded words) conditions others)
    (condition : first.Reworded words second) :
    List.Forall₂ (Condition.Reworded words) (set conditions first) (set others second) := by
  induction reworded with
  | nil => exact .cons condition .nil
  | @cons old oldElse rest restElse head tail induction =>
      unfold set
      by_cases placed : old.type = first.type
      · have placedElse : oldElse.type = second.type :=
          head.type_eq.symm.trans (placed.trans condition.type_eq)
        rw [if_pos placed, if_pos placedElse]
        refine .cons ?_ tail
        by_cases stays : old.status = first.status
        · have staysElse : oldElse.status = second.status :=
            head.status_eq.symm.trans (stays.trans condition.status_eq)
          rw [if_pos stays, if_pos staysElse, head.lastTransition_eq]
          exact condition.since _
        · have moves : oldElse.status ≠ second.status := fun staysElse =>
            stays (head.status_eq.trans (staysElse.trans condition.status_eq.symm))
          rw [if_neg stays, if_neg moves]
          exact condition
      · have apart : oldElse.type ≠ second.type := fun placedElse =>
          placed (head.type_eq.trans (placedElse.trans condition.type_eq.symm))
        rw [if_neg placed, if_neg apart]
        exact .cons head induction

/-- Refusals in different words are recorded in different words. -/
theorem reworded_markError {one other : String} (now : Instant) (generation : Option Int64)
    (told : words one) (toldElse : words other)
    (reworded : List.Forall₂ (Condition.Reworded words) conditions others) :
    List.Forall₂ (Condition.Reworded words)
      (markError now generation Stage.claim.reason (Failure.invalid one).message conditions)
      (markError now generation Stage.claim.reason (Failure.invalid other).message others) := by
  have report (type : String) (status : ConditionStatus) (generation : Option Int64) :
      Condition.Reworded words
        ⟨type, status, Stage.claim.reason, (Failure.invalid one).message, now, generation⟩
        ⟨type, status, Stage.claim.reason, (Failure.invalid other).message, now, generation⟩ :=
    .refused ⟨type, status, Stage.claim.reason, "", now, generation⟩ rfl told toldElse
  have failed := reworded_set reworded (report error .true generation)
  have notReady := reworded_set failed (report ready .false none)
  exact reworded_set notReady (report reconciling .false none)

end Condition

namespace Kind.Reworded

variable {kind : Kind} {one other : kind.Status}

theorem refl (status : kind.Status) : kind.Reworded words status status :=
  ⟨rfl, List.forall₂_same.mpr fun condition _ => .same condition⟩

theorem mapConditions {change changeElse : List Condition → List Condition}
    (changes : ∀ conditions others, List.Forall₂ (Condition.Reworded words) conditions others →
      List.Forall₂ (Condition.Reworded words) (change conditions) (changeElse others))
    (reworded : kind.Reworded words one other) :
    kind.Reworded words (kind.mapConditions change one) (kind.mapConditions changeElse other) := by
  have rest (change : List Condition → List Condition) (status : kind.Status) :
      kind.mapConditions (fun _ => []) (kind.mapConditions change status) =
        kind.mapConditions (fun _ => []) status := by
    cases kind <;> rfl
  constructor
  · rw [rest, rest]
    exact reworded.rest
  · rw [kind.conditions_mapConditions, kind.conditions_mapConditions]
    exact changes _ _ reworded.conditions

end Kind.Reworded

theorem Resource.Reworded.refl {kind : Kind} (resource : Resource kind) :
    resource.Reworded words resource := by
  refine ⟨rfl, rfl, ?_⟩
  cases resource.status with
  | none => exact .none
  | some status => exact .some (.refl status)

theorem Resource.Reworded.statusOrEmpty {kind : Kind} {one other : Resource kind}
    (reworded : one.Reworded words other) :
    kind.Reworded words one.statusOrEmpty other.statusOrEmpty := by
  have statuses := reworded.status
  unfold Resource.statusOrEmpty
  generalize one.status = status at statuses ⊢
  generalize other.status = statusElse at statuses ⊢
  cases statuses with
  | none => exact .refl _
  | some stored => exact stored

/-! ## Passes that fail -/

namespace Reconcile

variable {context : Context} {kind : Kind} {resource : Resource kind}

/-- How a pass ends that failed. -/
def abandon (context : Context) (resource : Resource kind) (stopped : StageFailure) : Pass Action := do
  if announcesFailure kind then
    announce resource .warning Event.syncFailed Event.reconcile (some stopped.text)
  recordFailure context resource stopped
  throw stopped.failure

theorem finish_run {α : Type} (converge : Staged α) (succeed : α → Pass Action) :
    (finish context resource converge succeed).run = converge.run >>= fun
      | .ok outcome => (succeed outcome).run
      | .error stopped => (abandon context resource stopped).run := by
  change (Except.ok <$> converge.run) >>= _ = _
  rw [bind_map_left]
  refine bind_congr fun outcome => ?_
  cases outcome <;> rfl

theorem abandon_asks {allowed : Effect → Prop} (stopped : StageFailure)
    (upkeep : Upkeep allowed kind resource.metadata.spokenKey) :
    Asks allowed (abandon context resource stopped) :=
  .doIf (announce_asks upkeep.tells _ _ _ _ _) fun _ =>
    .bind (recordFailure_asks upkeep.reads upkeep.writes upkeep.waits) fun _ => .throw

end Reconcile

/-! ## Worlds that do not heed words -/

/-- A world does not heed the words of refusals: its states are alike after requests that differ in them
only, and then they answer alike. -/
structure Heedless {ρ : Type} (words : String → Prop) (alike : ρ → ρ → Prop)
    (respond : Respondent ρ) : Prop where
  same : ∀ state, alike state state
  told : ∀ {one other : ρ} {event eventElse : Event}, alike one other →
    event.Reworded words eventElse →
    alike (respond one (.publish event)).2 (respond other (.publish eventElse)).2
  waited : ∀ {one other : ρ} (time : Rat), alike one other →
    alike (respond one (.pause time)).2 (respond other (.pause time)).2
  read : ∀ {one other : ρ} (kind : Kind) (key : ObjectKey), alike one other →
    Matches (Option.Rel (Resource.Reworded words)) Eq (respond one (.read kind key)).1
        (respond other (.read kind key)).1 ∧
      alike (respond one (.read kind key)).2 (respond other (.read kind key)).2
  written : ∀ {one other : ρ} {kind : Kind} {status statusElse : kind.Status} (key : ObjectKey)
    (revision : Option String), alike one other → kind.Reworded words status statusElse →
    (respond one (.writeStatus kind key revision status)).1 =
        (respond other (.writeStatus kind key revision statusElse)).1 ∧
      alike (respond one (.writeStatus kind key revision status)).2
        (respond other (.writeStatus kind key revision statusElse)).2

/-- Both are refusals of a claim. -/
inductive BothRefused {α : Type} (words : String → Prop) : Except Failure α → Except Failure α → Prop
  | mk {one other : String} (told : words one) (toldElse : words other) :
      BothRefused words (.error (.invalid one)) (.error (.invalid other))

namespace Heedless

variable {ρ : Type} {alike : ρ → ρ → Prop} {respond : Respondent ρ} {state other : ρ}
  {context : Context} {kind : Kind} {resource : Resource kind}

theorem updateStatus {key : ObjectKey} {change changeElse : kind.Status → kind.Status}
    (heedless : Heedless words alike respond)
    (changes : ∀ status statusElse, kind.Reworded words status statusElse →
      kind.Reworded words (change status) (changeElse statusElse))
    (start : alike state other) :
    Stay.Alike (Effect.Reworded words) alike Eq
      (respond.stay (updateStatus context kind key change).run state)
      (respond.stay (updateStatus context kind key changeElse).run other) := by
  refine Respondent.alike_retry (fun before later begins => ?_) (fun _ => .same _)
    (fun _ _ => heedless.waited) start
  refine Respondent.alike_ask (.same _) ?_
  have ⟨answers, leaves⟩ := heedless.read kind key begins
  generalize respond before (.read kind key) = given at answers leaves ⊢
  generalize respond later (.read kind key) = found at answers leaves ⊢
  rcases given with ⟨answer, after⟩
  rcases found with ⟨answerElse, last⟩
  cases answers with
  | error failed => exact Respondent.alike_done leaves (congrArg Except.error failed)
  | ok read =>
      cases read with
      | none => exact Respondent.alike_done leaves rfl
      | @some stored storedElse reworded =>
          have changed := changes _ _ reworded.statusOrEmpty
          have ⟨written, ends⟩ := heedless.written key stored.metadata.resourceVersion leaves changed
          have same : stored.metadata = storedElse.metadata := reworded.metadata
          refine Respondent.alike_ask ?_ (Respondent.alike_done ?_ ?_)
          · rw [← same]
            exact .write changed
          · rw [← same]
            exact ends
          · rw [← same]
            exact written

/-- Refusals in different words are recorded and told of in the same way. -/
theorem abandon {one two : String} (heedless : Heedless words alike respond) (told : words one)
    (toldElse : words two) (start : alike state other) :
    Stay.Alike (Effect.Reworded words) alike (BothRefused words)
      (respond.stay (abandon context resource ⟨.claim, .invalid one⟩).run state)
      (respond.stay (abandon context resource ⟨.claim, .invalid two⟩).run other) := by
  have changes (status statusElse : kind.Status) (reworded : kind.Reworded words status statusElse) :
      kind.Reworded words
        (kind.mapConditions (Condition.markError context.stamp resource.metadata.generation
          Stage.claim.reason (Failure.invalid one).message) status)
        (kind.mapConditions (Condition.markError context.stamp resource.metadata.generation
          Stage.claim.reason (Failure.invalid two).message) statusElse) :=
    reworded.mapConditions fun _ _ => Condition.reworded_markError _ _ told toldElse
  have closes {before later : ρ} (begins : alike before later) :
      Stay.Alike (Effect.Reworded words) alike (BothRefused words)
        (respond.stay (do
          recordFailure context resource ⟨.claim, .invalid one⟩
          throw (.invalid one) : Pass Action).run before)
        (respond.stay (do
          recordFailure context resource ⟨.claim, .invalid two⟩
          throw (.invalid two) : Pass Action).run later) := by
    have recorded : Stay.Alike (Effect.Reworded words) alike (Matches Eq fun _ _ => False)
        (respond.stay (recordFailure context resource ⟨.claim, .invalid one⟩).run before)
        (respond.stay (recordFailure context resource ⟨.claim, .invalid two⟩).run later) :=
      Respondent.alike_next (Respondent.alike_outcome (heedless.updateStatus changes begins))
        fun _ _ _ _ _ leaves => Respondent.alike_done leaves (.ok rfl)
    refine Respondent.alike_bind recorded fun outcome result after last ends leaves => ?_
    cases ends with
    | ok _ => exact Respondent.alike_done leaves (.mk told toldElse)
    | error never => exact never.elim
  have event : Event.Reworded words
      ⟨resource.reference, .warning, Event.syncFailed, Event.reconcile,
        some (StageFailure.text ⟨.claim, .invalid one⟩)⟩
      ⟨resource.reference, .warning, Event.syncFailed, Event.reconcile,
        some (StageFailure.text ⟨.claim, .invalid two⟩)⟩ :=
    .refused ⟨resource.reference, .warning, Event.syncFailed, Event.reconcile, none⟩ told toldElse
  unfold Reconcile.abandon
  split
  · exact Respondent.alike_ask (.publish event) (closes (heedless.told start event))
  · exact closes start

end Heedless

end ProxyOperator
