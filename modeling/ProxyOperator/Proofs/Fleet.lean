import ProxyOperator.Proofs.FootingCourse
import ProxyOperator.Proofs.HostRequests
import ProxyOperator.Proofs.Playing
/-!
Fleets: hosts that are managed through one remote server, each with a name of its own. Passes on them run
one at a time and in any order, while users edit the hosts and ask for their deletion. A pass does to its
own host what passes do, and to the statuses of the others it does nothing.
-/
namespace ProxyOperator

open Attempt Reconcile

structure Fleet (ι : Type) where
  stored : ι → ProxyHost
  /-- Whose pass runs, or ran last. -/
  turn : ι
  /-- What that pass was given. -/
  subject : ProxyHost
  /-- What that pass asked so far, and was answered. -/
  seen : List (Exchange Effects)

namespace Fleet

variable {ι : Type}

def scene (fleet : Fleet ι) : Scene .proxyHost := ⟨fleet.stored fleet.turn, fleet.subject, fleet.seen⟩

def keyOf (fleet : Fleet ι) (index : ι) : ObjectKey := (fleet.stored index).metadata.spokenKey

def footing (fleet : Fleet ι) (index : ι) : Footing ProxyHost.Snapshot :=
  Adopting.proxyHosts.footingOf (fleet.stored index)

/-- Whatever a pass asks, it is served as in a scene of its own, and so are the others. -/
structure Answers (before : Fleet ι) (exchange : Exchange Effects) (after : Fleet ι) : Prop where
  own : before.scene.Answers exchange after.scene
  others : ∀ index ≠ before.turn, ∃ served,
    Serves (before.keyOf index) (before.stored index) exchange served ∧
      served.Edited (after.stored index)
  turn : after.turn = before.turn

def Drifts (before after : Fleet ι) : Prop :=
  ∀ index, (before.stored index).Edited (after.stored index)

structure Begins (before : Fleet ι) (pass : Running) (after : Fleet ι) : Prop where
  pass : ∃ context, pass = (reconcile context .proxyHost (before.stored after.turn)).run
  drifts : before.Drifts after
  subject : after.subject = before.stored after.turn
  seen : after.seen = []

def setting (ι : Type) : Setting (Fleet ι) where
  conduct := Answers
  begins := Begins
  disturbs before after := before.Drifts after ∧ after.turn = before.turn ∧
    after.subject = before.subject ∧ after.seen = before.seen

/-- A fleet in which no pass has run yet. -/
def unmanaged (hosts : ι → ProxyHost) (first : ι) : Fleet ι := ⟨hosts, first, hosts first, []⟩

/-! ## What passes do to the footings of a fleet -/

/-- The hosts of a fleet are called differently, and their statuses are as passes leave them. -/
structure Orderly (fleet : Fleet ι) : Prop where
  called : fleet.subject.metadata.spokenKey = fleet.keyOf fleet.turn
  apart : ∀ first second, fleet.keyOf first = fleet.keyOf second → first = second
  sound : ∀ index, (fleet.footing index).Sound
  /-- What the status of the host said when the pass began still holds. -/
  begun : (Adopting.proxyHosts.footingOf fleet.subject).Lasts (fleet.footing fleet.turn)

/-- An exchange of a pass changes the footing of its host as a pass may, and is one that a pass on that
host may ask for. -/
def Keeps (before : Fleet ι) (exchange : Exchange Effects) (after : Fleet ι) : Prop :=
  before.scene.Keeps .proxyHosts exchange after.scene ∧ exchange.request.Befits before.subject

variable {before after fleet : Fleet ι} {exchange : Exchange Effects} {index : ι}

theorem Drifts.footing (drifts : before.Drifts after) (index : ι) :
    after.footing index = before.footing index :=
  Scene.footingOf_edited Adopting.proxyHosts (drifts index)

theorem Drifts.keyOf (drifts : before.Drifts after) (index : ι) :
    after.keyOf index = before.keyOf index :=
  (drifts index).called

theorem Answers.keyOf (answered : before.Answers exchange after) (index : ι) :
    after.keyOf index = before.keyOf index := by
  by_cases own : index = before.turn
  · subst own
    rcases answered.own.served with ⟨served, serves, edit⟩
    have same := edit.called.trans (congrArg Metadata.spokenKey serves.metadata)
    unfold scene at same
    rw [answered.turn] at same
    exact same
  · rcases answered.others index own with ⟨served, serves, edit⟩
    exact edit.called.trans (congrArg Metadata.spokenKey serves.metadata)

theorem Answers.footing_other (orderly : before.Orderly) (answered : before.Answers exchange after)
    (befits : exchange.request.Befits before.subject) (other : index ≠ before.turn) :
    after.footing index = before.footing index := by
  rcases answered.others index other with ⟨served, serves, edit⟩
  refine (Scene.footingOf_edited Adopting.proxyHosts edit).trans ?_
  have foreign : before.keyOf index ≠ before.subject.metadata.spokenKey := fun same =>
    other (orderly.apart _ _ (same.trans orderly.called))
  cases serves with
  | read | unread | refused | elsewhere => rfl
  | written => exact (foreign befits).elim
  | unheard => exact (foreign befits).elim

theorem Keeps.change (answered : before.Answers exchange after) (kept : before.Keeps exchange after) :
    Footing.Change .proxyHosts before.subject before.seen (before.footing before.turn)
      (after.footing before.turn) := by
  have change := kept.1
  unfold Scene.Keeps scene at change
  rw [answered.turn] at change
  exact change

theorem Orderly.exchanges (orderly : before.Orderly) (answered : before.Answers exchange after)
    (kept : before.Keeps exchange after) : after.Orderly where
  called := by
    rw [show after.subject = before.subject from answered.own.subject, answered.turn, answered.keyOf]
    exact orderly.called
  apart first second same := by
    rw [answered.keyOf, answered.keyOf] at same
    exact orderly.apart _ _ same
  sound index := by
    by_cases own : index = before.turn
    · subst own
      exact (kept.change answered).sound (orderly.sound _)
    · rw [answered.footing_other orderly kept.2 own]
      exact orderly.sound index
  begun := by
    rw [show after.subject = before.subject from answered.own.subject, answered.turn]
    exact orderly.begun.trans (kept.change answered).lasts

theorem Orderly.drifts (orderly : before.Orderly) (drifts : before.Drifts after)
    (called : after.subject.metadata.spokenKey = before.keyOf after.turn)
    (begun : (Adopting.proxyHosts.footingOf after.subject).Lasts (before.footing after.turn)) :
    after.Orderly where
  called := called.trans (drifts.keyOf _).symm
  apart first second same := by
    rw [drifts.keyOf, drifts.keyOf] at same
    exact orderly.apart _ _ same
  sound index := by
    rw [drifts.footing]
    exact orderly.sound index
  begun := by
    rw [drifts.footing]
    exact begun

theorem Orderly.begins {pass : Running} (orderly : before.Orderly) (begun : before.Begins pass after) :
    after.Orderly :=
  orderly.drifts begun.drifts (congrArg (·.metadata.spokenKey) begun.subject)
    (begun.subject.symm ▸ .refl _)

theorem Orderly.disturbs (orderly : before.Orderly) (drifts : before.Drifts after)
    (turn : after.turn = before.turn) (subject : after.subject = before.subject) : after.Orderly := by
  refine orderly.drifts drifts ?_ ?_
  · rw [subject, turn]
    exact orderly.called
  · rw [subject, turn]
    exact orderly.begun

/-- Whether its host is let go or not, a pass that begins keeps what passes keep. -/
theorem Begins.meets {pass : Running} (orderly : before.Orderly) (begun : before.Begins pass after) :
    Program.Meets Answers Keeps (fun _ _ => True) pass after := by
  have same := begun.drifts.footing after.turn
  rcases begun.pass with ⟨context, rfl⟩
  rw [← begun.subject]
  have stands : after.scene.Stands .proxyHosts after.subject []
      (Adopting.proxyHosts.footingOf after.subject) := by
    refine ⟨rfl, fun _ member => (nomatch member), ?_⟩
    rw [begun.subject]
    exact same
  have alone : Program.Meets Scene.Answers (Scene.Keeps .proxyHosts) (fun _ _ => True)
      (reconcile context .proxyHost after.subject).run after.scene := by
    by_cases deleting : after.subject.metadata.isDeleting = true
    · have quiet : Asks Effect.Quiet (ProxyHosts.reconcile context after.subject) := by
        unfold ProxyHosts.reconcile
        rw [deleting]
        exact (ProxyHosts.dismiss_asks deleting).mono fun _ => And.left
      exact Program.Meets.mono (fun _ _ _ => trivial) (Scene.Stands.of_quiet quiet stands)
    · have sound : (Adopting.proxyHosts.footingOf after.subject).Sound := by
        rw [begun.subject]
        exact orderly.sound _
      exact Program.Meets.mono (fun _ _ _ => trivial)
        (ProxyHosts.reconcile_meets (eq_false_of_ne_true deleting) sound stands)
  refine Program.Meets.and_asks (fun fleet => fleet.subject = after.subject)
    ProxyHosts.reconcile_asks (fun _ _ _ stays answered => answered.own.subject.trans stays)
    (fun _ _ _ stays asked kept => ⟨kept, stays ▸ asked⟩) rfl ?_
  exact alone.view fun _ _ _ answered => answered.own

theorem upholds : (setting ι).Upholds Orderly Keeps where
  begins orderly begun := ⟨orderly.begins begun, begun.meets orderly⟩
  exchanges orderly answered kept := orderly.exchanges answered kept
  disturbs orderly := fun ⟨drifts, turn, subject, _⟩ => orderly.disturbs drifts turn subject

end Fleet

end ProxyOperator
