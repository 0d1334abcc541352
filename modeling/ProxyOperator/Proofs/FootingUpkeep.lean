import ProxyOperator.Proofs.Footing
import ProxyOperator.Proofs.Frames
/-!
What the common parts of passes do to the footing of a resource: all but the writing of statuses leave
it alone, and statuses are written until a write is known to have happened, so writing the same again
must change nothing.
-/
namespace ProxyOperator

open Attempt Reconcile

namespace Scene

variable {kind : Kind} {α : Type}

/-- An exchange changes the footing at most as a pass may. -/
def Keeps (adopting : Adopting kind) (before : Scene kind) (_ : Exchange Effects)
    (after : Scene kind) : Prop :=
  Footing.Change adopting before.subject before.seen (adopting.footingOf before.stored)
    (adopting.footingOf after.stored)

/-- A pass on `subject` has seen the exchanges `known`, and the footing is `footing`. -/
structure Stands (adopting : Adopting kind) (subject : Resource kind)
    (known : List (Exchange Effects)) (footing : Footing adopting.Snapshot) (scene : Scene kind) :
    Prop where
  subject : scene.subject = subject
  known : ∀ exchange ∈ known, exchange ∈ scene.seen
  footing : adopting.footingOf scene.stored = footing

/-- A pass on `subject` goes on, whatever the footing is. -/
def Goes (adopting : Adopting kind) (subject : Resource kind) (scene : Scene kind) : Prop :=
  ∃ footing, scene.Stands adopting subject [] footing

/-- A pass on `subject` goes on, and knows the id of the footing and whether it is bound. -/
def Knows (adopting : Adopting kind) (subject : Resource kind) (id : Option UInt32) (bound : Bool)
    (scene : Scene kind) : Prop :=
  ∃ footing, footing.Fits id bound ∧ scene.Stands adopting subject [] footing

variable {adopting : Adopting kind} {subject : Resource kind} {known : List (Exchange Effects)}
  {footing : Footing adopting.Snapshot} {before after scene : Scene kind}
  {exchange : Exchange Effects}

theorem Stands.goes (stands : scene.Stands adopting subject known footing) :
    scene.Goes adopting subject :=
  ⟨footing, stands.subject, fun _ member => (nomatch member), stands.footing⟩

theorem footingOf_edited (adopting : Adopting kind) {stored edited : Resource kind}
    (edit : stored.Edited edited) :
    adopting.footingOf edited = adopting.footingOf stored := by
  simp only [Adopting.footingOf, Resource.statusOrEmpty, edit.status]

/-- What was seen before an exchange is seen after it, and so is the exchange. -/
theorem Answers.stands (answered : before.Answers exchange after)
    (stands : before.Stands adopting subject known footing)
    {later : Footing adopting.Snapshot} (equal : adopting.footingOf after.stored = later) :
    after.Stands adopting subject (exchange :: known) later where
  subject := answered.subject.trans stands.subject
  known other member := by
    rw [answered.seen]
    rcases List.mem_cons.mp member with same | earlier
    · exact List.mem_append_right _ (List.mem_singleton.mpr same)
    · exact List.mem_append_left _ (stands.known other earlier)
  footing := equal

theorem Stands.forget (stands : scene.Stands adopting subject (exchange :: known) footing) :
    scene.Stands adopting subject known footing :=
  ⟨stands.subject, fun other member => stands.known other (List.mem_cons_of_mem _ member),
    stands.footing⟩

/-- Only a write of the status touches the footing. -/
theorem Answers.footingOf_eq (adopting : Adopting kind)
    (answered : before.Answers exchange after) (quiet : exchange.request.Quiet) :
    adopting.footingOf after.stored = adopting.footingOf before.stored := by
  rcases answered.served with ⟨served, serves, edit⟩
  rw [footingOf_edited adopting edit]
  cases serves with
  | read => rfl
  | unread failure => rfl
  | written revision status => exact quiet.elim
  | refused revision status failure => rfl
  | unheard revision status failure => exact quiet.elim
  | elsewhere other => rfl

theorem Answers.quiet (answered : before.Answers exchange after) (quiet : exchange.request.Quiet)
    (stands : before.Stands adopting subject known footing) :
    Keeps adopting before exchange after ∧
      after.Stands adopting subject (exchange :: known) footing := by
  have same := answered.footingOf_eq adopting quiet
  refine ⟨?_, answered.stands stands (same.trans stands.footing)⟩
  unfold Keeps
  rw [same]
  exact .kept _

/-- A part of a pass that writes no status leaves the footing alone. -/
theorem Stands.of_quiet {ε : Type} {attempt : Attempt ε α} (asks : Asks Effect.Quiet attempt)
    (stands : scene.Stands adopting subject known footing) :
    Meets Answers (Keeps adopting) (fun _ after => after.Stands adopting subject known footing)
      (fun _ after => after.Stands adopting subject known footing) attempt scene :=
  .of_asks asks (fun _ _ _ quiet stands answered =>
    have ⟨kept, stood⟩ := answered.quiet quiet stands
    ⟨kept, stood.forget⟩) stands

theorem Stands.bind {ε β : Type} {attempt : Attempt ε α} {next : α → Attempt ε β}
    {ok : β → Scene kind → Prop} (asks : Asks Effect.Quiet attempt)
    (stands : scene.Stands adopting subject known footing)
    (further : ∀ (value : α) (after : Scene kind), after.Stands adopting subject known footing →
      Meets Answers (Keeps adopting) ok (fun _ after => after.Goes adopting subject) (next value)
        after) :
    Meets Answers (Keeps adopting) ok (fun _ after => after.Goes adopting subject)
      (attempt >>= next) scene :=
  .bind ((stands.of_quiet asks).mono further fun _ _ stands => stands.goes)

/-! ## Writing the status -/

theorem Answers.reads {answer : Except Failure (Option (Resource kind))}
    (called : before.subject = subject)
    (answered : before.Answers ⟨.read kind subject.metadata.spokenKey, answer⟩ after) :
    answer = .ok (some before.stored) ∨ ∃ failure, answer = .error failure := by
  subst called
  rcases answered.served with ⟨served, serves, edit⟩
  cases serves with
  | read => exact .inl rfl
  | unread failure => exact .inr ⟨failure, rfl⟩
  | elsewhere other => exact (other ⟨rfl, rfl⟩).elim

/-- A write of the status happens, or it fails, and then it happened all the same or not. -/
theorem Answers.writes (adopting : Adopting kind) {revision : Option String} {status : kind.Status}
    {answer : Except Failure Unit} (called : before.subject = subject)
    (answered :
      before.Answers ⟨.writeStatus kind subject.metadata.spokenKey revision status, answer⟩ after) :
    adopting.footingOf after.stored = adopting.footing status ∨
      (∃ failure, answer = .error failure) ∧
        adopting.footingOf after.stored = adopting.footingOf before.stored := by
  subst called
  rcases answered.served with ⟨served, serves, edit⟩
  rw [footingOf_edited adopting edit]
  cases serves with
  | written => exact .inl rfl
  | refused revision status failure => exact .inr ⟨⟨failure, rfl⟩, rfl⟩
  | unheard => exact .inl rfl
  | elsewhere other => exact (other ⟨rfl, rfl⟩).elim

/-- While a status is written the footing is what it was, or already what it is to be. -/
def Turns (adopting : Adopting kind) (subject : Resource kind) (known : List (Exchange Effects))
    (footing later : Footing adopting.Snapshot) (scene : Scene kind) : Prop :=
  scene.Stands adopting subject known footing ∨ scene.Stands adopting subject known later

variable {later : Footing adopting.Snapshot}

theorem Turns.goes (turns : scene.Turns adopting subject known footing later) :
    scene.Goes adopting subject :=
  turns.elim (·.goes) (·.goes)

theorem Turns.called (turns : scene.Turns adopting subject known footing later) :
    scene.subject = subject :=
  turns.elim (·.subject) (·.subject)

theorem Turns.quiet (turns : before.Turns adopting subject known footing later)
    (answered : before.Answers exchange after) (quiet : exchange.request.Quiet) :
    Keeps adopting before exchange after ∧ after.Turns adopting subject known footing later := by
  rcases turns with first | second
  · exact (answered.quiet quiet first).imp_right fun stands => .inl stands.forget
  · exact (answered.quiet quiet second).imp_right fun stands => .inr stands.forget

theorem Turns.write {revision : Option String} {status : kind.Status} {answer : Except Failure Unit}
    (turns : before.Turns adopting subject known footing later)
    (turned : adopting.footing status = later)
    (allowed : before.Stands adopting subject known footing →
      Footing.Change adopting subject before.seen footing later)
    (answered :
      before.Answers ⟨.writeStatus kind subject.metadata.spokenKey revision status, answer⟩ after) :
    Keeps adopting before ⟨.writeStatus kind subject.metadata.spokenKey revision status, answer⟩
        after ∧
      (after.Stands adopting subject known later ∨
        (∃ failure, answer = .error failure) ∧ after.Turns adopting subject known footing later) := by
  unfold Keeps
  rw [turns.called]
  rcases answered.writes adopting turns.called with written | ⟨failed, same⟩
  · have reached := written.trans turned
    refine ⟨?_, turns.elim (fun first => .inl (answered.stands first reached).forget)
      fun second => .inl (answered.stands second reached).forget⟩
    rw [reached]
    rcases turns with first | second
    · exact first.footing.symm ▸ allowed first
    · exact second.footing.symm ▸ .kept later
  · rw [same]
    refine ⟨.kept _, .inr ⟨failed, ?_⟩⟩
    exact turns.imp (fun first => (answered.stands first (same.trans first.footing)).forget)
      fun second => (answered.stands second (same.trans second.footing)).forget

/-- A change of the status that turns one footing into another, and then leaves it alone, does so once
however often it is tried. -/
theorem Stands.of_updateStatus {context : Context} {change : kind.Status → kind.Status}
    (turns : ∀ status, adopting.footing status = footing ∨ adopting.footing status = later →
      adopting.footing (change status) = later)
    (allowed : ∀ scene : Scene kind, scene.Stands adopting subject known footing →
      Footing.Change adopting subject scene.seen footing later)
    (stands : scene.Stands adopting subject known footing) :
    Meets Answers (Keeps adopting) (fun _ after => after.Stands adopting subject known later)
      (fun _ after => after.Goes adopting subject)
      (updateStatus context kind subject.metadata.spokenKey change) scene := by
  have turning : scene.Turns adopting subject known footing later := .inl stands
  refine .updateStatus (fun latest after => after.Turns adopting subject known footing later ∧
    (adopting.footing latest.statusOrEmpty = footing ∨ adopting.footing latest.statusOrEmpty = later))
    ?_ ?_ ?_ turning
  · exact fun time start after begun paused => begun.quiet paused trivial
  · intro answer start after begun read
    have ⟨kept, between⟩ := begun.quiet read trivial
    apply And.intro kept
    rcases read.reads begun.called with equal | ⟨failure, equal⟩
    · subst equal
      exact ⟨between, begun.imp (·.footing) (·.footing)⟩
    · subst equal
      exact ⟨between.goes, between⟩
  · intro latest revision answer start after ⟨begun, either⟩ answered
    have ⟨kept, ends⟩ := begun.write (turns _ either) (allowed start) answered
    apply And.intro kept
    rcases ends with written | ⟨⟨failure, equal⟩, unsure⟩
    · cases answer with
      | ok _ => exact written
      | error failure => exact ⟨written.goes, .inr written⟩
    · subst equal
      exact ⟨unsure.goes, unsure⟩

theorem Stands.of_updateAside {context : Context} {change : kind.Status → kind.Status}
    (aside : ∀ status, adopting.footing status = footing →
      adopting.footing (change status) = footing)
    (stands : scene.Stands adopting subject known footing) :
    Meets Answers (Keeps adopting) (fun _ after => after.Stands adopting subject known footing)
      (fun _ after => after.Goes adopting subject)
      (updateStatus context kind subject.metadata.spokenKey change) scene :=
  stands.of_updateStatus (fun status turns => aside status (turns.elim id id))
    fun _ _ => .kept footing

theorem Stands.of_mapConditions {context : Context} {change : List Condition → List Condition}
    (stands : scene.Stands adopting subject known footing) :
    Meets Answers (Keeps adopting) (fun _ after => after.Stands adopting subject known footing)
      (fun _ after => after.Goes adopting subject)
      (updateStatus context kind subject.metadata.spokenKey (kind.mapConditions change)) scene :=
  stands.of_updateAside fun status same => (adopting.footing_mapConditions change status).trans same

/-! ## The frame of a pass -/

/-- However a pass ends, what it recorded stays. -/
theorem Goes.of_recordFailure {context : Context} {stopped : StageFailure}
    (goes : scene.Goes adopting subject) :
    Meets Answers (Keeps adopting) (fun _ after => after.Goes adopting subject)
      (fun _ after => after.Goes adopting subject) (recordFailure context subject stopped) scene := by
  rcases goes with ⟨footing, stands⟩
  refine .bind (.outcome ?_)
  exact stands.of_mapConditions.mono (fun _ _ stands => stands.goes) fun _ _ goes => goes

theorem Goes.of_announce {type : EventType} {reason action : String} {note : Option String}
    {ok : Unit → Scene kind → Prop} {fail : Failure → Scene kind → Prop}
    (goes : scene.Goes adopting subject)
    (ends : ∀ after : Scene kind, after.Goes adopting subject → ok () after) :
    Meets Answers (Keeps adopting) ok fail (announce subject type reason action note) scene := by
  rcases goes with ⟨footing, stands⟩
  refine .publish fun after answered => ?_
  have ⟨kept, stood⟩ := answered.quiet trivial stands
  exact ⟨kept, ends after stood.goes⟩

/-- A pass converges to an outcome that agrees with the footing, and then writes it down. -/
theorem Goes.of_finish {context : Context} {converge : Staged α} {succeed : α → Pass Action}
    {id : α → UInt32} {bound : α → Bool}
    (converges : Meets Answers (Keeps adopting)
      (fun outcome after => after.Knows adopting subject (some (id outcome)) (bound outcome))
      (fun _ after => after.Goes adopting subject) converge scene)
    (succeeds : ∀ outcome (after : Scene kind),
      after.Knows adopting subject (some (id outcome)) (bound outcome) →
      Meets Answers (Keeps adopting) (fun _ _ => True) (fun _ _ => True) (succeed outcome) after) :
    Meets Answers (Keeps adopting) (fun _ _ => True) (fun _ _ => True)
      (finish context subject converge succeed) scene := by
  refine .bind (.outcome (converges.mono (fun outcome after knows => ?_)
    fun stopped after goes => ?_))
  · exact succeeds outcome after knows
  · have records : ∀ scene : Scene kind, scene.Goes adopting subject →
        Meets Answers (Keeps adopting) (fun _ _ => True) (fun _ _ => True)
          (recordFailure context subject stopped >>= fun _ => throw stopped.failure : Pass Action)
          scene :=
      fun scene goes => .bind (goes.of_recordFailure.mono (fun _ _ _ => .throw trivial)
        fun _ _ _ => trivial)
    dsimp only
    split
    · exact .bind (goes.of_announce fun after goes => records after goes)
    · exact records after goes

end Scene

end ProxyOperator
