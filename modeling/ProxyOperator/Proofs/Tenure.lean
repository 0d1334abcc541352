import ProxyOperator.Proofs.BearerTraffic
import ProxyOperator.Proofs.FailedPasses
import ProxyOperator.Proofs.Openings
/-!
Which resources are held back from deletion, over any number of passes on the resource of a name, while users
edit it, remove it and make it anew, and calls fail. What is on record of a remote object is there only on
resources that are held back, with one exception: to hold back a resource that is gone succeeds, and then the
pass goes on with whatever takes its place.
-/
namespace ProxyOperator

open Reconcile

/-! ## What there is of a name -/

/-- The resource of a name, if there is one, while a pass runs on what it was when the pass began. -/
structure Tenure (kind : Kind) where
  stored : Option (Resource kind)
  /-- What the pass that runs, or ran last, was given. -/
  subject : Resource kind
  /-- What that pass asked so far, and was answered. -/
  seen : List (Exchange Effects)
  /-- Whether it was told that it holds the resource back when there was none. -/
  missed : Bool

namespace Resource

variable {kind : Kind}

def withFinalizers (resource : Resource kind) (finalizers : List String) : Resource kind :=
  { resource with metadata.finalizers := some finalizers }

def heldBack (resource : Resource kind) : Resource kind :=
  if resource.isHeld then resource
  else resource.withFinalizers ((resource.metadata.finalizers.getD []) ++ [finalizer])

/-- What is left of a resource that the operator lets go of. One whose deletion was asked for is gone with its
last finalizer. -/
def letGo? (resource : Resource kind) : Option (Resource kind) :=
  let others := (resource.metadata.finalizers.getD []).filter (· ≠ finalizer)
  if others.isEmpty && resource.metadata.isDeleting then none
  else some (resource.withFinalizers others)

variable {resource left : Resource kind}

theorem isHeld_heldBack : resource.heldBack.isHeld = true := by
  unfold heldBack
  split
  · assumption
  · simp [withFinalizers, isHeld, Metadata.hasFinalizer]

theorem spokenKey_heldBack :
    resource.heldBack.metadata.spokenKey = resource.metadata.spokenKey := by
  unfold heldBack
  split <;> rfl

theorem metadata_letGo? (left? : resource.letGo? = some left) :
    left.metadata.spokenKey = resource.metadata.spokenKey ∧
      left.metadata.isDeleting = resource.metadata.isDeleting := by
  unfold letGo? at left?
  dsimp only at left?
  split at left?
  · cases left?
  · obtain rfl := Option.some.inj left?
    exact ⟨rfl, rfl⟩

end Resource

/-- The request is about the resource of a name, or its finalizer. -/
def Effect.Touches (kind : Kind) (key : ObjectKey) : Effect → Prop
  | .addFinalizer other target => other = kind ∧ target = key
  | .removeFinalizer other target => other = kind ∧ target = key
  | effect => effect.Concerns kind key

/-- A pass is told that it holds a resource back when there is none. -/
def Exchange.misses {kind : Kind} (stored : Option (Resource kind)) : Exchange Effects → Bool
  | ⟨.addFinalizer _ _, .ok _⟩ => stored.isNone
  | _ => false

namespace Tenure

variable {kind : Kind}

/-- How the cluster serves a request about the resource of a name, and what there is of it then. Whatever fails
may have happened all the same. -/
inductive Serves (key : ObjectKey) :
    Option (Resource kind) → Exchange Effects → Option (Resource kind) → Prop
  | read (stored : Option (Resource kind)) : Serves key stored ⟨.read kind key, .ok stored⟩ stored
  | written (stored : Resource kind) (revision : Option String) (status : kind.Status)
      (answer : Except Failure Unit) :
      Serves key (some stored) ⟨.writeStatus kind key revision status, answer⟩
        (some { stored with status := some (kind.overlaid stored.statusOrEmpty status) })
  | held (stored : Option (Resource kind)) (answer : Except Failure Unit) :
      Serves key stored ⟨.addFinalizer kind key, answer⟩ (stored.map Resource.heldBack)
  | released (stored : Option (Resource kind)) (answer : Except Failure Unit) :
      Serves key stored ⟨.removeFinalizer kind key, answer⟩ (stored.bind Resource.letGo?)
  | unread (stored : Option (Resource kind)) (failure : Failure) :
      Serves key stored ⟨.read kind key, .error failure⟩ stored
  | unwritten (stored : Option (Resource kind)) (revision : Option String) (status : kind.Status)
      (failure : Failure) :
      Serves key stored ⟨.writeStatus kind key revision status, .error failure⟩ stored
  | unheld (stored : Option (Resource kind)) (failure : Failure) :
      Serves key stored ⟨.addFinalizer kind key, .error failure⟩ stored
  | unreleased (stored : Option (Resource kind)) (failure : Failure) :
      Serves key stored ⟨.removeFinalizer kind key, .error failure⟩ stored
  | elsewhere {exchange : Exchange Effects} (stored : Option (Resource kind))
      (other : ¬ exchange.request.Touches kind key) : Serves key stored exchange stored

/-- What users may do: edit a resource, but neither its status nor the finalizer of the operator, and not undo its
deletion; and unless it is held back, have it removed, and make another one of its name, which has no status
and is not held back. -/
inductive Drifts (key : ObjectKey) : Option (Resource kind) → Option (Resource kind) → Prop
  | edited {before after : Resource kind} (edit : before.Edited after)
      (held : after.isHeld = before.isHeld)
      (deleting : before.metadata.isDeleting = true → after.metadata.isDeleting = true) :
      Drifts key (some before) (some after)
  | replaced {before after : Option (Resource kind)}
      (unheld : ∀ stored ∈ before, stored.isHeld = false)
      (fresh : ∀ stored ∈ after, stored.status = none ∧ stored.isHeld = false ∧
        stored.metadata.spokenKey = key) : Drifts key before after

structure Answers (key : ObjectKey) (before : Tenure kind) (exchange : Exchange Effects)
    (after : Tenure kind) : Prop where
  served : ∃ served, Serves key before.stored exchange served ∧ Drifts key served after.stored
  subject : after.subject = before.subject
  seen : after.seen = before.seen ++ [exchange]
  missed : after.missed = (before.missed || exchange.misses before.stored)

/-- A pass begins on the resource as it is stored, whether or not its deletion was asked for. -/
structure Begins (key : ObjectKey) (before : Tenure kind) (pass : Running) (after : Tenure kind) :
    Prop where
  stored : before.stored = some after.subject
  pass : ∃ context, pass = (reconcile context kind after.subject).run
  drifts : Drifts key before.stored after.stored
  seen : after.seen = []
  missed : after.missed = false

def setting (kind : Kind) (key : ObjectKey) : Setting (Tenure kind) where
  conduct := Answers key
  begins := Begins key
  disturbs before after := Drifts key before.stored after.stored ∧ after.subject = before.subject ∧
    after.seen = before.seen ∧ after.missed = before.missed

/-- There is a resource, and it is held back. -/
def Holds (stored : Option (Resource kind)) : Prop := ∃ resource ∈ stored, resource.isHeld = true

/-- There is a resource that is not deleted and not held back, and a remote object is on record of it. -/
def Exposed (holding : Holding kind) (stored : Option (Resource kind)) : Prop :=
  ∃ resource ∈ stored, resource.metadata.isDeleting = false ∧ resource.isHeld = false ∧
    (holding.entry resource.statusOrEmpty).id.isSome

/-- There is a resource that is held back, and its deletion was asked for. -/
def Doomed (stored : Option (Resource kind)) : Prop :=
  ∃ resource ∈ stored, resource.isHeld = true ∧ resource.metadata.isDeleting = true

def Called (key : ObjectKey) (stored : Option (Resource kind)) : Prop :=
  ∀ resource ∈ stored, resource.metadata.spokenKey = key

section

variable {key : ObjectKey} {holding : Holding kind} {stored served before after : Option (Resource kind)}
  {exchange : Exchange Effects}

theorem Holds.unexposed (holds : Holds stored) : ¬Exposed holding stored := by
  rintro ⟨resource, there, _, unheld, _⟩
  obtain ⟨other, stays, held⟩ := holds
  obtain rfl := Option.mem_unique there stays
  exact Bool.false_ne_true (unheld.symm.trans held)

/-! ## What users do -/

theorem Drifts.holds_iff (drifts : Drifts key before after) : Holds after ↔ Holds before := by
  cases drifts with
  | edited _ held => simp [Holds, held]
  | replaced unheld fresh =>
      constructor
      · rintro ⟨resource, there, held⟩
        exact absurd held (Bool.eq_false_iff.mp (fresh resource there).2.1)
      · rintro ⟨resource, there, held⟩
        exact absurd held (Bool.eq_false_iff.mp (unheld resource there))

theorem Drifts.called (drifts : Drifts key before after) (called : Called key before) :
    Called key after := by
  cases drifts with
  | edited edit =>
      intro resource there
      obtain rfl := Option.mem_some.mp there
      exact edit.called.trans (called _ rfl)
  | replaced _ fresh => exact fun resource there => (fresh resource there).2.2

theorem Drifts.doomed (drifts : Drifts key before after) (doomed : Doomed before) :
    Doomed after := by
  obtain ⟨resource, there, held, deleted⟩ := doomed
  cases drifts with
  | edited _ same deleting =>
      obtain rfl := Option.mem_some.mp there
      exact ⟨_, rfl, same.trans held, deleting deleted⟩
  | replaced unheld => exact absurd held (Bool.eq_false_iff.mp (unheld resource there))

/-- Users do not expose a resource: one that is made anew has no remote object on record. -/
theorem Drifts.exposed (empty : (holding.entry kind.emptyStatus).id = none)
    (drifts : Drifts key before after) (exposed : Exposed holding after) :
    Exposed holding before := by
  obtain ⟨resource, there, stays, unheld, known⟩ := exposed
  cases drifts with
  | @edited older _ edit same deleting =>
      obtain rfl := Option.mem_some.mp there
      refine ⟨older, rfl, ?_, same.symm.trans unheld, ?_⟩
      · refine Bool.eq_false_iff.mpr fun deleted => ?_
        exact Bool.false_ne_true (stays.symm.trans (deleting deleted))
      · rw [Resource.statusOrEmpty, edit.status] at known
        exact known
  | replaced _ fresh =>
      rw [Resource.statusOrEmpty, (fresh resource there).1, Option.getD_none, empty] at known
      cases known

/-! ## What requests do -/

theorem Serves.called (serves : Serves key stored exchange served) (called : Called key stored) :
    Called key served := by
  cases serves with
  | written older =>
      intro resource there
      obtain rfl := Option.mem_some.mp there
      exact called older rfl
  | held =>
      intro resource there
      obtain ⟨older, stays, rfl⟩ := Option.map_eq_some_iff.mp there
      exact Resource.spokenKey_heldBack.trans (called older stays)
  | released =>
      intro resource there
      obtain ⟨older, stays, left⟩ := Option.bind_eq_some_iff.mp there
      exact (Resource.metadata_letGo? left).1.trans (called older stays)
  | read | unread | unwritten | unheld | unreleased | elsewhere => exact called

/-- A request that leaves finalizers alone lets go of nothing. -/
theorem Serves.holds_iff (works : exchange.request.Works)
    (serves : Serves key stored exchange served) : Holds served ↔ Holds stored := by
  cases serves with
  | written => simp [Holds, Resource.isHeld]
  | held | released | unheld | unreleased => exact works.elim
  | read | unread | unwritten | elsewhere => exact Iff.rfl

theorem Serves.same (quiet : exchange.request.Quiet) (works : exchange.request.Works)
    (serves : Serves key stored exchange served) : served = stored := by
  cases serves with
  | written => exact quiet.elim
  | held | released => exact works.elim
  | read | unread | unwritten | unheld | unreleased | elsewhere => rfl

/-- A resource is held back, or it is as it was, and then that was not heard of as a success. -/
theorem Serves.of_hold {answer : Except Failure Unit}
    (serves : Serves key stored ⟨.addFinalizer kind key, answer⟩ served) :
    served = stored.map Resource.heldBack ∨ served = stored ∧ ∃ failure, answer = .error failure := by
  cases serves with
  | held => exact .inl rfl
  | unheld => exact .inr ⟨rfl, _, rfl⟩
  | elsewhere _ other => exact absurd ⟨rfl, rfl⟩ other

theorem Serves.of_release {answer : Except Failure Unit}
    (serves : Serves key stored ⟨.removeFinalizer kind key, answer⟩ served) :
    served = stored.bind Resource.letGo? ∨ served = stored := by
  cases serves with
  | released => exact .inl rfl
  | unreleased => exact .inr rfl
  | elsewhere _ other => exact absurd ⟨rfl, rfl⟩ other

theorem holds_heldBack : Holds (stored.map Resource.heldBack) ↔ stored.isNone = false := by
  cases stored with
  | none => simp [Holds]
  | some resource => simp [Holds, Resource.isHeld_heldBack]

/-- What is let go of stays deleted. -/
theorem Doomed.released_unexposed (doomed : Doomed stored) :
    ¬Exposed holding (stored.bind Resource.letGo?) := by
  rintro ⟨left, there, stays, _⟩
  obtain ⟨resource, was, _, deleted⟩ := doomed
  obtain ⟨other, same, let_go⟩ := Option.bind_eq_some_iff.mp there
  obtain rfl := Option.mem_unique was same
  rw [(Resource.metadata_letGo? let_go).2, deleted] at stays
  cases stays

end

/-! ## Runs -/

variable {key : ObjectKey} {holding : Holding kind} {start moment next : Moment (Tenure kind)}

/-- A pass runs on what it was given and has come so far. Once it has held back its resource, or if it was held back
before, there is a resource that is held back, unless the pass missed it; and until it lets go of a resource whose
deletion was asked for, there is one. -/
structure Runs (key : ObjectKey) (world : Tenure kind) (rest : Running) : Prop where
  named : world.subject.metadata.spokenKey = key
  ran : ∃ context, Program.Goes (Conduct.free Effects) (reconcile context kind world.subject).run ()
    world.seen rest ()
  fresh : world.seen = [] → world.missed = false
  holds : world.subject.metadata.isDeleting = false →
    world.subject.isHeld = true ∨ ⟨.addFinalizer kind key, .ok ()⟩ ∈ world.seen →
    (Holds world.stored ↔ world.missed = false)
  doomed : world.subject.metadata.isDeleting = true → world.subject.isHeld = true →
    (∀ exchange ∈ world.seen, ∀ other target, exchange.request ≠ .removeFinalizer other target) →
    Doomed world.stored

structure Orderly (key : ObjectKey) (moment : Moment (Tenure kind)) : Prop where
  called : Called key moment.world.stored
  runs : ∀ rest ∈ moment.running, Runs key moment.world rest

section

variable {world after : Tenure kind} {before : Tenure kind} {rest : Running} {pass : Running}
  {request : Effect} {answer : request.Answer} {further : request.Answer → Running}

theorem Begins.runs (called : Called key before.stored) (begun : Begins key before pass after) :
    Runs key after pass where
  named := called _ begun.stored
  ran := by
    obtain ⟨context, rfl⟩ := begun.pass
    rw [begun.seen]
    exact ⟨context, .here _ _⟩
  fresh _ := begun.missed
  holds _ held := by
    have holds : Holds before.stored := by
      refine ⟨after.subject, begun.stored, held.elim id fun member => ?_⟩
      rw [begun.seen] at member
      cases member
    exact iff_of_true (begun.drifts.holds_iff.mpr holds) begun.missed
  doomed deleted held _ := begun.drifts.doomed ⟨after.subject, begun.stored, held, deleted⟩

theorem Answers.called (called : Called key before.stored)
    {exchange : Exchange Effects} (answered : Answers key before exchange after) :
    Called key after.stored := by
  obtain ⟨served, serves, drifts⟩ := answered.served
  exact drifts.called (serves.called called)

/-- What is next for a pass on a resource that stays. -/
theorem Runs.opened (remote : kind ≠ .token) (runs : Runs key world rest)
    (stays : world.subject.metadata.isDeleting = false) : Opened world.subject world.seen rest := by
  obtain ⟨context, goes⟩ := runs.ran
  exact ProxyOperator.opened remote stays goes

/-- What a pass on a resource that is deleted asks next. -/
theorem Runs.departs (remote : kind ≠ .token) (runs : Runs key world (.ask request further))
    (deleted : world.subject.metadata.isDeleting = true) :
    Doomed world.stored ∧ ∃ context, Departs context world.subject world.seen request := by
  obtain ⟨context, goes⟩ := runs.ran
  obtain ⟨held, departs, once⟩ := ProxyOperator.departs remote deleted goes
  exact ⟨runs.doomed deleted held once, context, departs⟩

theorem misses_of_works {exchange : Exchange Effects} {stored : Option (Resource kind)}
    (works : exchange.request.Works) : exchange.misses stored = false := by
  obtain ⟨request, answer⟩ := exchange
  cases request with
  | addFinalizer => exact works.elim
  | _ => rfl

/-- A request that leaves finalizers alone leaves it at what there was. -/
theorem Answers.holds_iff {exchange : Exchange Effects} (works : exchange.request.Works)
    (answered : Answers key before exchange after)
    (holds : Holds before.stored ↔ before.missed = false) :
    Holds after.stored ↔ after.missed = false := by
  obtain ⟨served, serves, drifts⟩ := answered.served
  rw [drifts.holds_iff, serves.holds_iff works, holds, answered.missed, misses_of_works works,
    Bool.or_false]

theorem Runs.answered (remote : kind ≠ .token) (runs : Runs key before (.ask request further))
    (answered : Answers key before ⟨request, answer⟩ after) : Runs key after (further answer) where
  named := answered.subject ▸ runs.named
  ran := by
    obtain ⟨context, goes⟩ := runs.ran
    rw [answered.subject, answered.seen]
    exact ⟨context, goes.snoc trivial⟩
  fresh empty := by
    rw [answered.seen] at empty
    cases List.append_eq_nil_iff.mp empty |>.2
  holds := by
    rw [answered.subject, answered.seen]
    intro stays held
    rcases (runs.opened remote stays).asks with ⟨first, unheld, rfl⟩ | ⟨earlier, works⟩
    · rw [first, List.nil_append, List.mem_singleton] at held
      rcases held with held | same
      · cases held.symm.trans unheld
      obtain rfl : answer = .ok () := (eq_of_heq (Exchange.mk.inj same).2).symm
      obtain ⟨served, serves, drifts⟩ := answered.served
      rw [runs.named] at serves
      rcases serves.of_hold with rfl | ⟨_, _, failed⟩
      · rw [drifts.holds_iff, holds_heldBack, answered.missed, runs.fresh first, Bool.false_or]
        exact Iff.rfl
      · cases failed
    · rw [runs.named] at earlier
      exact answered.holds_iff works (runs.holds stays earlier)
  doomed := by
    rw [answered.subject, answered.seen]
    intro deleted held once
    obtain ⟨doomed, context, departs⟩ := runs.departs remote deleted
    obtain ⟨served, serves, drifts⟩ := answered.served
    cases departs with
    | leaves leaves =>
        rw [serves.same leaves.quiet leaves.works] at drifts
        exact drifts.doomed doomed
    | releases =>
        exact absurd rfl (once _ (List.mem_append_right _ (List.mem_singleton_self _)) _ _)

/-- An exchange exposes a resource only if the pass missed the one that it was given. -/
theorem Runs.exposed (remote : kind ≠ .token)
    (empty : (holding.entry kind.emptyStatus).id = none)
    (runs : Runs key before (.ask request further))
    (answered : Answers key before ⟨request, answer⟩ after) (exposed : Exposed holding after.stored) :
    Exposed holding before.stored ∨ before.missed = true := by
  obtain ⟨served, serves, drifts⟩ := answered.served
  have exposed := drifts.exposed empty exposed
  cases deleted : before.subject.metadata.isDeleting with
  | false =>
      rcases (runs.opened remote deleted).asks with ⟨_, _, rfl⟩ | ⟨earlier, works⟩
      · rw [runs.named] at serves
        rcases serves.of_hold with rfl | ⟨rfl, _⟩
        · obtain ⟨resource, there, _⟩ := id exposed
          obtain ⟨older, _, rfl⟩ := Option.map_eq_some_iff.mp there
          exact absurd exposed (Holds.unexposed ⟨_, there, Resource.isHeld_heldBack⟩)
        · exact .inl exposed
      · rw [runs.named] at earlier
        refine .inr (Bool.eq_true_of_not_eq_false fun met => ?_)
        have holds := (runs.holds deleted earlier).mpr met
        exact ((serves.holds_iff works).mpr holds).unexposed exposed
  | true =>
      obtain ⟨doomed, context, departs⟩ := runs.departs remote deleted
      cases departs with
      | leaves leaves =>
          rw [serves.same leaves.quiet leaves.works] at exposed
          exact .inl exposed
      | releases =>
          rw [runs.named] at serves
          rcases serves.of_release with rfl | rfl
          · exact absurd exposed doomed.released_unexposed
          · exact .inl exposed

/-- An exchange lets go of a resource only as the last one of a pass on a deleted resource. -/
theorem Runs.releases (remote : kind ≠ .token) (runs : Runs key before (.ask request further))
    (answered : Answers key before ⟨request, answer⟩ after) (held : Holds before.stored)
    (free : ¬Holds after.stored) :
    before.subject.metadata.isDeleting = true ∧ request = .removeFinalizer kind key ∧
      ∃ context, TakesLeave context before.subject before.seen := by
  obtain ⟨served, serves, drifts⟩ := answered.served
  have free := mt drifts.holds_iff.mpr free
  cases deleted : before.subject.metadata.isDeleting with
  | false =>
      rcases (runs.opened remote deleted).asks with ⟨_, _, rfl⟩ | ⟨_, works⟩
      · rw [runs.named] at serves
        rcases serves.of_hold with rfl | ⟨rfl, _⟩
        · obtain ⟨resource, there, _⟩ := held
          exact absurd ⟨_, Option.mem_map_of_mem _ there, Resource.isHeld_heldBack⟩ free
        · exact absurd held free
      · exact absurd ((serves.holds_iff works).mpr held) free
  | true =>
      obtain ⟨_, context, departs⟩ := runs.departs remote deleted
      cases departs with
      | leaves leaves =>
          rw [serves.same leaves.quiet leaves.works] at free
          exact absurd held free
      | releases leave => exact ⟨rfl, by rw [runs.named], context, leave⟩

end

theorem Orderly.step (remote : kind ≠ .token) (orderly : Orderly key moment)
    (step : (setting kind key).Step moment next) : Orderly key next := by
  cases step with
  | begin begun =>
      refine ⟨begun.drifts.called orderly.called, ?_⟩
      rintro rest ⟨⟩
      exact begun.runs orderly.called
  | exchange answered =>
      refine ⟨answered.called orderly.called, ?_⟩
      rintro rest ⟨⟩
      exact (orderly.runs _ rfl).answered remote answered
  | leave => exact ⟨orderly.called, fun _ none => nomatch none⟩
  | disturb drifts => exact ⟨drifts.1.called orderly.called, fun _ none => nomatch none⟩

theorem Orderly.reaches (remote : kind ≠ .token) (orderly : Orderly key start)
    (reaches : (setting kind key).Reaches start moment) : Orderly key moment := by
  induction reaches with
  | refl => exact orderly
  | tail _ step induction => exact induction.step remote step

/-- A step exposes a resource only if the pass that runs missed the one that it was given. -/
theorem Orderly.exposed (remote : kind ≠ .token)
    (empty : (holding.entry kind.emptyStatus).id = none) (orderly : Orderly key moment)
    (step : (setting kind key).Step moment next) (exposed : Exposed holding next.world.stored) :
    Exposed holding moment.world.stored ∨ moment.world.missed = true := by
  cases step with
  | begin begun => exact .inl (begun.drifts.exposed empty exposed)
  | exchange answered => exact (orderly.runs _ rfl).exposed remote empty answered exposed
  | leave => exact .inl exposed
  | disturb drifts => exact .inl (drifts.1.exposed empty exposed)

/-- What is on record of a resource that is not held back has come there since some pass missed one. -/
theorem Orderly.missed_of_exposed (remote : kind ≠ .token)
    (empty : (holding.entry kind.emptyStatus).id = none) (orderly : Orderly key start)
    (unexposed : ¬Exposed holding start.world.stored)
    (reaches : (setting kind key).Reaches start moment)
    (exposed : Exposed holding moment.world.stored) :
    ∃ earlier, (setting kind key).Reaches start earlier ∧
      (setting kind key).Reaches earlier moment ∧ earlier.world.missed = true := by
  induction reaches with
  | refl => exact absurd exposed unexposed
  | @tail before after earlier step induction =>
      rcases (orderly.reaches remote earlier).exposed remote empty step exposed with older | missed
      · obtain ⟨first, came, further, missed⟩ := induction older
        exact ⟨first, came, further.tail step, missed⟩
      · exact ⟨before, earlier, .single step, missed⟩

theorem Orderly.releases (remote : kind ≠ .token) (orderly : Orderly key moment)
    (step : (setting kind key).Step moment next) (held : Holds moment.world.stored)
    (free : ¬Holds next.world.stored) :
    moment.world.subject.metadata.isDeleting = true ∧
      (∃ further, moment.running = some (.ask (.removeFinalizer kind key) further)) ∧
      ∃ context, TakesLeave context moment.world.subject moment.world.seen := by
  cases step with
  | begin begun => exact absurd (begun.drifts.holds_iff.mpr held) free
  | exchange answered =>
      obtain ⟨deleted, rfl, leave⟩ := (orderly.runs _ rfl).releases remote answered held free
      exact ⟨deleted, ⟨_, rfl⟩, leave⟩
  | leave => exact absurd held free
  | disturb drifts => exact absurd (drifts.1.holds_iff.mpr held) free

/-- What holds at a moment of a run. Whatever a pass on a resource that stays asks for, but to hold it back, is asked
while there is a resource that is held back, just unless the pass missed it; if it cannot be held back, the pass fails
at once; a resource that stays and has a remote object on record is held back, unless some pass missed one; and what
is held back is let go of only by a pass on a resource whose deletion was asked for, after it took leave of the remote
object. -/
structure Guarded (holding : Holding kind) (key : ObjectKey) (start moment : Moment (Tenure kind)) :
    Prop where
  calls : ∀ request further, moment.running = some (.ask request further) →
    moment.world.subject.metadata.isDeleting = false → request ≠ .addFinalizer kind key →
    (Holds moment.world.stored ↔ moment.world.missed = false)
  halts : ∀ failure, moment.world.subject.metadata.isDeleting = false →
    ⟨.addFinalizer kind key, .error failure⟩ ∈ moment.world.seen →
    ∀ pass ∈ moment.running, moment.world.seen = [⟨.addFinalizer kind key, .error failure⟩] ∧
      pass = .done (.error failure)
  exposed : Exposed holding moment.world.stored → ∃ earlier, (setting kind key).Reaches start earlier ∧
    (setting kind key).Reaches earlier moment ∧ earlier.world.missed = true
  releases : ∀ next, (setting kind key).Step moment next → Holds moment.world.stored →
    ¬Holds next.world.stored → moment.world.subject.metadata.isDeleting = true ∧
      (∃ further, moment.running = some (.ask (.removeFinalizer kind key) further)) ∧
      ∃ context, TakesLeave context moment.world.subject moment.world.seen

theorem Orderly.guarded (remote : kind ≠ .token)
    (empty : (holding.entry kind.emptyStatus).id = none) (orderly : Orderly key start)
    (unexposed : ¬Exposed holding start.world.stored)
    (reaches : (setting kind key).Reaches start moment) : Guarded holding key start moment := by
  have reached := orderly.reaches remote reaches
  refine ⟨?_, ?_, orderly.missed_of_exposed remote empty unexposed reaches,
    fun _ step => reached.releases remote step⟩
  · intro request further asks stays other
    have runs := reached.runs _ asks
    rcases (runs.opened remote stays).asks with ⟨_, _, same⟩ | ⟨earlier, _⟩
    · rw [runs.named] at same
      exact absurd same other
    · rw [runs.named] at earlier
      exact runs.holds stays earlier
  · intro failure stays failed pass running
    have runs := reached.runs pass running
    rw [← runs.named] at failed ⊢
    exact (runs.opened remote stays).halts failed

end Tenure

/-- In a run that starts without a status, resources are held back from deletion while passes deal with remote objects,
and as long as one is on record, unless a pass is told so of a resource that is gone. -/
theorem held_unless_missed {kind : Kind} {holding : Holding kind} {key : ObjectKey}
    {stored : Option (Resource kind)} {subject : Resource kind} {moment : Moment (Tenure kind)}
    (own : kind.holding? = some holding)
    (fresh : ∀ resource ∈ stored, resource.status = none ∧ resource.metadata.spokenKey = key)
    (reaches : (Tenure.setting kind key).Reaches (.still ⟨stored, subject, [], false⟩) moment) :
    Tenure.Guarded holding key (.still ⟨stored, subject, [], false⟩) moment := by
  have remote : kind ≠ .token := by
    rintro rfl
    cases own
  have empty : (holding.entry kind.emptyStatus).id = none := by
    cases kind <;> cases own <;> rfl
  refine Tenure.Orderly.guarded remote empty ⟨fun resource there => (fresh resource there).2,
    fun _ none => nomatch none⟩ ?_ reaches
  rintro ⟨resource, there, _, _, known⟩
  rw [Resource.statusOrEmpty, (fresh resource there).1, Option.getD_none, empty] at known
  cases known

/-! ## Two runs -/

namespace Sample

/-- A host that is not held back yet. -/
def unheld : ProxyHost := (host "web" false [⟨"10.0.0.1", 80⟩]).withFinalizers []

/-- What is answered about the host `web`, if there is one. -/
def kept? (elsewhere : (request : Effect) → Option request.Answer) (stored : Option ProxyHost) :
    (request : Effect) → Option request.Answer
  | .read .proxyHost key => if key = web then some (.ok stored) else none
  | .writeStatus .proxyHost key _ _ => if key = web ∧ stored.isSome then some (.ok ()) else none
  | .addFinalizer .proxyHost key => if key = web then some (.ok ()) else none
  | .publish _ => some ()
  | .list kind scope => elsewhere (.list kind scope)
  | .connect session => elsewhere (.connect session)
  | .remote session request => elsewhere (.remote session request)
  | _ => none

/-- If there is no host to hold back, one is made right after that. -/
def keptAfter (stored : Option ProxyHost) : Effect → Option ProxyHost
  | .writeStatus .proxyHost _ _ status => stored.map fun stored =>
      { stored with status := some (Kind.proxyHost.overlaid stored.statusOrEmpty status) }
  | .addFinalizer .proxyHost _ => some ((stored.map Resource.heldBack).getD unheld)
  | _ => stored

def keeping (elsewhere : (request : Effect) → Option request.Answer) :
    Responder Effects (Tenure .proxyHost) := fun tenure request =>
  (kept? elsewhere tenure.stored request).map fun answer =>
    (answer, ⟨keptAfter tenure.stored request, tenure.subject,
      tenure.seen ++ [⟨request, answer⟩],
      tenure.missed || Exchange.misses tenure.stored ⟨request, answer⟩⟩)

theorem drifts_self (stored : Option ProxyHost) : Tenure.Drifts web stored stored := by
  cases stored with
  | none => exact .replaced (fun _ none => nomatch none) fun _ none => nomatch none
  | some host => exact .edited ⟨rfl, rfl⟩ rfl id

theorem kept_serves {elsewhere : (request : Effect) → Option request.Answer}
    {stored : Option ProxyHost} {request : Effect} {answer : request.Answer}
    (known : kept? elsewhere stored request = some answer) :
    ∃ served, Tenure.Serves web stored ⟨request, answer⟩ served ∧
      Tenure.Drifts web served (keptAfter stored request) := by
  unfold kept? at known
  split at known
  · split at known
    · next same =>
      obtain rfl := Option.some.inj known
      subst same
      exact ⟨_, .read stored, drifts_self _⟩
    · cases known
  · split at known
    · next same =>
      obtain ⟨rfl, there⟩ := same
      obtain ⟨host, rfl⟩ := Option.isSome_iff_exists.mp there
      exact ⟨_, .written host _ _ _, drifts_self _⟩
    · cases known
  · split at known
    · next same =>
      subst same
      refine ⟨_, .held stored _, ?_⟩
      cases stored with
      | none => exact .replaced (fun _ none => nomatch none) (by rintro _ ⟨⟩; decide +kernel)
      | some host => exact drifts_self _
    · cases known
  · exact ⟨_, .elsewhere stored id, drifts_self _⟩
  · exact ⟨_, .elsewhere stored id, drifts_self _⟩
  · exact ⟨_, .elsewhere stored id, drifts_self _⟩
  · exact ⟨_, .elsewhere stored id, drifts_self _⟩
  · cases known

theorem keeping_allowed (elsewhere : (request : Effect) → Option request.Answer) :
    Program.Allowed (Tenure.Answers web) (keeping elsewhere) := by
  intro tenure request answer after answered
  obtain ⟨_, known, same⟩ := Option.map_eq_some_iff.mp answered
  obtain ⟨rfl, rfl⟩ := Prod.mk.inj same
  exact ⟨kept_serves known, rfl, rfl, rfl⟩

/-- What is left of a pass on the host, and what there is then, if there is `stored` when it begins. -/
def watch (elsewhere : (request : Effect) → Option request.Answer) (stored : Option ProxyHost) :
    Running × Tenure .proxyHost :=
  (reconcile context .proxyHost unheld).run.play (keeping elsewhere) ⟨stored, unheld, [], false⟩

theorem watch_reaches (elsewhere : (request : Effect) → Option request.Answer)
    {stored : Option ProxyHost} (drifts : Tenure.Drifts web (some unheld) stored) :
    (Tenure.setting .proxyHost web).Reaches (.still ⟨some unheld, unheld, [], false⟩)
      ⟨(watch elsewhere stored).2, some (watch elsewhere stored).1⟩ := by
  obtain ⟨log, goes⟩ := (keeping_allowed elsewhere).goes
    (reconcile context .proxyHost unheld).run ⟨stored, unheld, [], false⟩
  have begun : (Tenure.setting .proxyHost web).Step (.still ⟨some unheld, unheld, [], false⟩)
      ⟨⟨stored, unheld, [], false⟩, some (reconcile context .proxyHost unheld).run⟩ :=
    .begin ⟨rfl, ⟨context, rfl⟩, drifts, rfl, rfl⟩
  exact .head begun (Setting.reaches_of_goes goes)

/-- A server that sessions can be set up with. -/
def reachable : (request : Effect) → Option request.Answer
  | .connect _ => some (.ok ())
  | request => elsewhere (remote none) request

end Sample

/-- A host is held back before its first session is set up. -/
theorem held_unless_missed_first :
    ∃ (moment : Moment (Tenure .proxyHost)) (session : Remote.Session)
      (further : Except Failure Unit → Running),
      (Tenure.setting .proxyHost Sample.web).Reaches
        (.still ⟨some Sample.unheld, Sample.unheld, [], false⟩) moment ∧
      moment.running = some (.ask (.connect session) further) ∧
      Tenure.Guarded Adopting.proxyHosts.holding Sample.web
        (.still ⟨some Sample.unheld, Sample.unheld, [], false⟩) moment ∧
      Tenure.Holds moment.world.stored := by
  let last := Sample.watch (Sample.elsewhere (Sample.remote none)) (some Sample.unheld)
  have reaches := Sample.watch_reaches (Sample.elsewhere (Sample.remote none))
    (Sample.drifts_self (some Sample.unheld))
  have connects : Sample.session? last.1 = some ⟨"http://npm:81", "secret"⟩ := by decide +kernel
  obtain ⟨further, rest⟩ := Sample.eq_ask_of_session? connects
  rw [rest] at reaches
  have guarded := held_unless_missed rfl (by rintro _ ⟨⟩; decide +kernel) reaches
  have met : last.2.missed = false := by decide +kernel
  have stays : last.2.subject.metadata.isDeleting = false := by decide +kernel
  exact ⟨_, _, further, reaches, rfl, guarded,
    (guarded.calls _ _ rfl stays Effect.noConfusion).mpr met⟩

/-- A host is removed when a pass on it has just begun, and made anew after that pass was told that it holds the host
back. What the pass makes is on record of the new host then, which is not held back. -/
theorem held_unless_missed_anew :
    ∃ (moment : Moment (Tenure .proxyHost)) (host : ProxyHost),
      (Tenure.setting .proxyHost Sample.web).Reaches
        (.still ⟨some Sample.unheld, Sample.unheld, [], false⟩) moment ∧
      moment.world.stored = some host ∧ host.metadata.isDeleting = false ∧ host.isHeld = false ∧
      host.remoteId = some 99 := by
  let last := Sample.watch Sample.reachable none
  have removed : Tenure.Drifts Sample.web (some Sample.unheld) none :=
    .replaced (by rintro _ ⟨⟩; decide +kernel) fun _ none => nomatch none
  have reaches := Sample.watch_reaches Sample.reachable removed
  have there : last.2.stored.isSome = true := by decide +kernel
  obtain ⟨host, stored⟩ := Option.isSome_iff_exists.mp there
  have facts : last.2.stored.all (fun host => !host.metadata.isDeleting && !host.isHeld &&
      ProxyHost.remoteId host == some 99) = true := by decide +kernel
  rw [stored] at facts
  simp only [Option.all_some, Bool.and_eq_true, Bool.not_eq_true', beq_iff_eq] at facts
  exact ⟨_, host, reaches, stored, facts.1.1, facts.1.2, facts.2⟩

end ProxyOperator
