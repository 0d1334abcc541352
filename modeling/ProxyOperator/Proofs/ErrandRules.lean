import ProxyOperator.Proofs.Errands
import ProxyOperator.Proofs.Frames
/-!
Rules for the parts of passes where statuses can be read and written, while anything else may fail: what a
part does to the object in hand, and to what is recorded of it.
-/
namespace ProxyOperator

open Attempt Reconcile

/-- How the cluster serves a request where a resource is stored, if reads and writes of its status
succeed. -/
inductive Obeys {kind : Kind} (key : ObjectKey) (stored : Resource kind) :
    Exchange Effects → Resource kind → Prop
  | read : Obeys key stored ⟨.read kind key, .ok (some stored)⟩ stored
  | written (revision : Option String) (status : kind.Status) :
      Obeys key stored ⟨.writeStatus kind key revision status, .ok ()⟩
        { stored with status := some status }
  | elsewhere {exchange : Exchange Effects} (other : ¬ exchange.request.Concerns kind key) :
      Obeys key stored exchange stored

/-- A request is served, and the user may edit the resource after that. -/
structure Obliges {kind : Kind} (key : ObjectKey) (before : Resource kind)
    (exchange : Exchange Effects) (after : Resource kind) : Prop where
  served : ∃ served, Obeys key before exchange served ∧ served.Edited after
  faithful : exchange.Faithful

namespace Obliges

variable {kind : Kind} {key : ObjectKey} {before after : Resource kind} {exchange : Exchange Effects}

theorem status_of_quiet (answered : Obliges key before exchange after)
    (quiet : ∀ revision status, exchange.request ≠ .writeStatus kind key revision status) :
    after.status = before.status := by
  obtain ⟨served, obeys, edit⟩ := answered.served
  rw [edit.status]
  cases obeys with
  | read => rfl
  | written revision status => exact (quiet revision status rfl).elim
  | elsewhere => rfl

theorem status_of_write {revision : Option String} {status : kind.Status}
    {answer : Except Failure Unit}
    (answered : Obliges key before ⟨.writeStatus kind key revision status, answer⟩ after) :
    answer = .ok () ∧ after.status = some status := by
  obtain ⟨served, obeys, edit⟩ := answered.served
  rw [edit.status]
  cases obeys with
  | written => exact ⟨rfl, rfl⟩
  | elsewhere other => exact (other ⟨rfl, rfl⟩).elim

theorem reads {answer : Except Failure (Option (Resource kind))}
    (answered : Obliges key before ⟨.read kind key, answer⟩ after) : answer = .ok (some before) := by
  obtain ⟨served, obeys, _⟩ := answered.served
  cases obeys with
  | read => rfl
  | elsewhere other => exact (other ⟨rfl, rfl⟩).elim

end Obliges

/-- What users leave alone is not touched by an edit. -/
theorem Resource.Edited.statusOrEmpty {kind : Kind} {before after : Resource kind}
    (edited : before.Edited after) : after.statusOrEmpty = before.statusOrEmpty := by
  rw [Resource.statusOrEmpty, edited.status]
  rfl

namespace Hand

/-- What was found or made is on record. -/
def IsKept (entry : Entry) : Hand → Prop
  | .found id => entry = ⟨some id, true⟩
  | .made id => entry.id = some id
  | _ => True

theorem isKept_of_records {hand : Hand} {entry : Entry} (records : hand.Records entry) :
    hand.IsKept entry := by
  cases hand with
  | found id => exact records
  | made id => exact records
  | nothing | known | lost => trivial

end Hand

namespace Errand

variable {kind : Kind} {errand : Errand kind}

/-- A stored resource, and what a pass asked and was answered up to now. -/
abbrev World (kind : Kind) := Resource kind × List (Exchange Effects)

abbrev Answers (errand : Errand kind) : Conduct Effects (World kind) :=
  Conduct.logged (Obliges errand.key)

abbrev Step (errand : Errand kind) (before : World kind) (exchange : Exchange Effects)
    (_ : World kind) : Prop :=
  errand.Befits (errand.hand before.2) exchange.request

/-- The request is about no object of the collection, and writes no status of the resource. -/
structure Aside (errand : Errand kind) (effect : Effect) : Prop where
  lists : effect.lists errand.holding.collection = false
  creates : effect.creates errand.holding.collection = false
  target : effect.target? errand.holding.collection = none
  tells : ∀ revision status, effect ≠ .writeStatus kind errand.key revision status

/-! ## Situations of a pass -/

/-- A pass has something in hand, and an entry is on record. -/
structure At (errand : Errand kind) (hand : Hand) (entry : Entry) (world : World kind) : Prop where
  inHand : errand.hand world.2 = hand
  onRecord : errand.holding.entry world.1.statusOrEmpty = entry
  agrees : entry = errand.start ∨ hand.Records entry

def Lacks (errand : Errand kind) (world : World kind) : Prop := errand.At .nothing errand.start world

/-- A pass has the object of an id in hand. -/
def Has (errand : Errand kind) (id : UInt32) (bound : Bool) (world : World kind) : Prop :=
  ∃ hand entry, errand.At hand entry world ∧ hand.Records ⟨some id, bound⟩

/-- A pass has the object of an id in hand, and if it was not there before, it is on record. -/
def Keeps (errand : Errand kind) (id : UInt32) (bound : Bool) (world : World kind) : Prop :=
  ∃ hand entry, errand.At hand entry world ∧ hand.Records ⟨some id, bound⟩ ∧ hand.IsKept entry

/-- A pass may stop. -/
def Stopped (errand : Errand kind) (world : World kind) : Prop :=
  ∃ hand entry, errand.At hand entry world ∧ hand.IsKept entry

/-- A pass is through. -/
def Done (errand : Errand kind) (world : World kind) : Prop :=
  ∃ hand entry, errand.At hand entry world ∧ hand.Records entry

variable {ε α β : Type} {hand : Hand} {entry later : Entry} {id : UInt32} {bound : Bool}
  {before after world : World kind} {exchange : Exchange Effects} {context : Context}

theorem Lacks.stopped (lacks : errand.Lacks world) : errand.Stopped world :=
  ⟨.nothing, _, lacks, trivial⟩

theorem Keeps.has (keeps : errand.Keeps id bound world) : errand.Has id bound world := by
  obtain ⟨hand, entry, stands, records, _⟩ := keeps
  exact ⟨hand, entry, stands, records⟩

/-! ## Requests about other things -/

theorem Aside.befits {effect : Effect} (aside : errand.Aside effect) : errand.Befits hand effect where
  seeks asked := by
    rw [aside.lists, aside.creates] at asked
    rcases asked with lists | creates
    · cases lists
    · cases creates
  target id asked := nomatch aside.target.symm.trans asked
  tells revision status same := (aside.tells revision status same).elim

theorem Aside.next (aside : errand.Aside exchange.request) : errand.next hand exchange = hand := by
  cases hand with
  | nothing =>
      rw [Errand.next, aside.creates]
      have unlisted : exchange.listed? errand.holding.collection = none := by
        apply Option.eq_none_iff_forall_ne_some.mpr
        intro objects listed
        have lists := Exchange.lists_of_listed listed
        rw [aside.lists] at lists
        cases lists
      rw [unlisted]
      rfl
  | known | found | made | lost => rfl

theorem At.aside (stands : errand.At hand entry before) (aside : errand.Aside exchange.request)
    (answered : errand.Answers before exchange after) :
    errand.Step before exchange after ∧ errand.At hand entry after := by
  apply And.intro aside.befits
  constructor
  · rw [answered.2, hand_append, stands.inHand, aside.next]
  · rw [Resource.statusOrEmpty, answered.1.status_of_quiet aside.tells]
    exact stands.onRecord
  · exact stands.agrees

/-- A part of a pass that is about other things changes nothing about the object in hand. -/
theorem At.of_asks {attempt : Attempt ε α} (asks : Asks errand.Aside attempt)
    (stands : errand.At hand entry world) :
    Meets errand.Answers errand.Step (fun _ => errand.At hand entry) (fun _ => errand.At hand entry)
      attempt world :=
  .of_asks asks (fun _ _ _ aside stands answered => stands.aside aside answered) stands

theorem At.bind {attempt : Attempt ε α} {next : α → Attempt ε β} {ok : β → World kind → Prop}
    (asks : Asks errand.Aside attempt) (kept : hand.IsKept entry)
    (stands : errand.At hand entry world)
    (further : ∀ value after, errand.At hand entry after →
      Meets errand.Answers errand.Step ok (fun _ => errand.Stopped) (next value) after) :
    Meets errand.Answers errand.Step ok (fun _ => errand.Stopped) (attempt >>= next) world :=
  .bind ((stands.of_asks asks).mono further fun _ _ stands => ⟨hand, entry, stands, kept⟩)

theorem Lacks.bind {attempt : Attempt ε α} {next : α → Attempt ε β} {ok : β → World kind → Prop}
    (asks : Asks errand.Aside attempt) (lacks : errand.Lacks world)
    (further : ∀ value after, errand.Lacks after →
      Meets errand.Answers errand.Step ok (fun _ => errand.Stopped) (next value) after) :
    Meets errand.Answers errand.Step ok (fun _ => errand.Stopped) (attempt >>= next) world := by
  have kept : Hand.IsKept errand.start .nothing := trivial
  exact At.bind asks kept lacks further

theorem Keeps.bind {attempt : Attempt ε α} {next : α → Attempt ε β} {ok : β → World kind → Prop}
    (asks : Asks errand.Aside attempt) (keeps : errand.Keeps id bound world)
    (further : ∀ value after, errand.Keeps id bound after →
      Meets errand.Answers errand.Step ok (fun _ => errand.Stopped) (next value) after) :
    Meets errand.Answers errand.Step ok (fun _ => errand.Stopped) (attempt >>= next) world := by
  obtain ⟨hand, entry, stands, records, kept⟩ := keeps
  apply At.bind asks kept stands
  intro value after stands
  exact further value after ⟨hand, entry, stands, records, kept⟩

/-! ## Writing the status -/

theorem aside_of_read : errand.Aside (.read kind errand.key) :=
  ⟨rfl, rfl, rfl, fun _ _ => Effect.noConfusion⟩

theorem aside_of_pause (wait : Rat) : errand.Aside (.pause wait) :=
  ⟨rfl, rfl, rfl, fun _ _ => Effect.noConfusion⟩

theorem aside_of_publish (event : Event) : errand.Aside (.publish event) :=
  ⟨rfl, rfl, rfl, fun _ _ => Effect.noConfusion⟩

/-- A status is written that is on record or tells what is in hand. -/
theorem At.write {revision : Option String} {status : kind.Status} {answer : Except Failure Unit}
    (stands : errand.At hand entry before) (turned : errand.holding.entry status = later)
    (agrees : later = errand.start ∨ hand.Records later)
    (answered : errand.Answers before ⟨.writeStatus kind errand.key revision status, answer⟩ after) :
    errand.Step before ⟨.writeStatus kind errand.key revision status, answer⟩ after ∧
      answer = .ok () ∧ errand.At hand later after := by
  have ⟨succeeded, written⟩ := answered.1.status_of_write
  refine ⟨⟨?_, ?_, ?_⟩, succeeded, ⟨?_, ?_, agrees⟩⟩
  · intro seeks
    rcases seeks with lists | creates
    · cases lists
    · cases creates
  · intro id target
    cases target
  · intro _ other same
    cases same
    rw [stands.inHand, turned]
    exact agrees
  · rw [answered.2, hand_append, stands.inHand]
    cases hand <;> rfl
  · rw [Resource.statusOrEmpty, written]
    exact turned

/-- A status is changed as it was read, at the first attempt. -/
theorem At.updateStatus {change : kind.Status → kind.Status} (stands : errand.At hand entry world)
    (turns : ∀ status, errand.holding.entry status = entry →
      errand.holding.entry (change status) = later)
    (agrees : later = errand.start ∨ hand.Records later) :
    Meets errand.Answers errand.Step (fun _ => errand.At hand later) (fun _ _ => False)
      (updateStatus context kind errand.key change) world := by
  refine Meets.updateStatus (fun latest after => errand.At hand entry after ∧
    errand.holding.entry latest.statusOrEmpty = entry) ?_ ?_ ?_ stands
  · exact fun time before after begun paused => begun.aside (aside_of_pause time) paused
  · intro answer before after begun answered
    have ⟨befits, still⟩ := begun.aside aside_of_read answered
    apply And.intro befits
    rcases answered.1.reads with rfl
    exact ⟨still, begun.onRecord⟩
  · intro latest revision answer before after ⟨still, onRecord⟩ written
    have ⟨befits, succeeded, stands⟩ := still.write (turns _ onRecord) agrees written
    apply And.intro befits
    rw [succeeded]
    exact stands

theorem At.mapConditions {change : List Condition → List Condition}
    (stands : errand.At hand entry world) :
    Meets errand.Answers errand.Step (fun _ => errand.At hand entry) (fun _ _ => False)
      (Reconcile.updateStatus context kind errand.key (kind.mapConditions change)) world :=
  stands.updateStatus (fun status same => (errand.holding.entry_mapConditions change status).trans same)
    stands.agrees

/-- Whether conditions are marked at the start of a pass or not, it stands as before. -/
theorem At.mark {marks : Prop} [Decidable marks] {change : List Condition → List Condition}
    {fail : Failure → World kind → Prop} (stands : errand.At hand entry world) :
    Meets errand.Answers errand.Step (fun _ => errand.At hand entry) fail
      (if marks then
        Reconcile.updateStatus context kind errand.key (kind.mapConditions change)
      else pure ()) world := by
  split
  · exact stands.mapConditions.mono (fun _ _ stands => stands) fun _ _ => False.elim
  · exact .pure stands

/-! ## Requests about the object in hand -/

/-- A request about the object in hand leaves it there. -/
theorem At.ask {session : Remote.Session} {request : Remote.Request} {answer : Except Failure _}
    (stands : errand.At hand entry before)
    (target : (Effect.remote session request).target? errand.holding.collection = some id)
    (held : hand.id? = some id)
    (answered : errand.Answers before ⟨.remote session request, answer⟩ after) :
    errand.Step before ⟨.remote session request, answer⟩ after ∧ errand.At hand entry after := by
  have ⟨lists, creates⟩ := Effect.seeks_of_target target
  have something : hand ≠ .nothing := by
    intro nothing
    rw [nothing] at held
    cases held
  refine ⟨⟨?_, ?_, ?_⟩, ⟨?_, ?_, stands.agrees⟩⟩
  · rw [lists, creates]
    intro seeks
    rcases seeks with lists | creates
    · cases lists
    · cases creates
  · intro other asked
    rw [stands.inHand, held]
    exact target.symm.trans asked
  · intro revision status same
    cases same
  · rw [answered.2, hand_append, stands.inHand, next_of_ne something]
  · rw [Resource.statusOrEmpty, answered.1.status_of_quiet fun _ _ => Effect.noConfusion]
    exact stands.onRecord

theorem Keeps.ask {session : Remote.Session} {request : Remote.Request}
    (keeps : errand.Keeps id bound world)
    (target : (Effect.remote session request).target? errand.holding.collection = some id) :
    Meets errand.Answers errand.Step
      (fun value after => Exchange.Faithful ⟨.remote session request, .ok value⟩ ∧
        errand.Keeps id bound after)
      (fun _ => errand.Stopped) ((Effect.remote session request).ask : Pass request.Result) world := by
  obtain ⟨hand, entry, stands, records, kept⟩ := keeps
  have held : hand.id? = some id := records.id.symm
  apply Meets.remote
  · intro value after answered
    have ⟨befits, still⟩ := stands.ask target held answered
    exact ⟨befits, answered.1.faithful, hand, entry, still, records, kept⟩
  · intro failure after answered
    have ⟨befits, still⟩ := stands.ask target held answered
    exact ⟨befits, hand, entry, still, kept⟩

theorem Keeps.get {session : Remote.Session} (keeps : errand.Keeps id bound world) :
    Meets errand.Answers errand.Step
      (fun object => errand.Keeps (errand.holding.collection.idOf object) bound)
      (fun _ => errand.Stopped) (session.get errand.holding.collection id) world := by
  refine (keeps.ask Effect.target_get).mono ?_ fun _ _ stopped => stopped
  intro object after ⟨faithful, keeps⟩
  rw [faithful object rfl]
  exact keeps

theorem Keeps.update {session : Remote.Session} {payload : errand.holding.collection.Payload}
    (keeps : errand.Keeps id bound world) :
    Meets errand.Answers errand.Step
      (fun object => errand.Keeps (errand.holding.collection.idOf object) bound)
      (fun _ => errand.Stopped) (session.update errand.holding.collection id payload) world := by
  refine (keeps.ask Effect.target_update).mono ?_ fun _ _ stopped => stopped
  intro object after ⟨faithful, keeps⟩
  rw [faithful object rfl]
  exact keeps

/-! ## Requests for an object -/

/-- A request for an object is one that a pass without an object may make, and nothing is written by it. -/
theorem Lacks.seek {session : Remote.Session} {request : Remote.Request} {answer : Except Failure _}
    (lacks : errand.Lacks before)
    (target : (Effect.remote session request).target? errand.holding.collection = none)
    (agrees : errand.next .nothing ⟨.remote session request, answer⟩ = hand)
    (answered : errand.Answers before ⟨.remote session request, answer⟩ after) :
    errand.Step before ⟨.remote session request, answer⟩ after ∧ errand.At hand errand.start after := by
  refine ⟨⟨fun _ => lacks.inHand, ?_, fun _ _ => Effect.noConfusion⟩, ⟨?_, ?_, .inl rfl⟩⟩
  · intro id asked
    cases target.symm.trans asked
  · rw [answered.2, hand_append, lacks.inHand, agrees]
  · rw [Resource.statusOrEmpty, answered.1.status_of_quiet fun _ _ => Effect.noConfusion]
    exact lacks.onRecord

theorem Lacks.list {session : Remote.Session} (lacks : errand.Lacks world) :
    Meets errand.Answers errand.Step
      (fun objects => errand.At ((errand.holding.wanted errand.subject.spec objects).elim .nothing
        fun object => .found (errand.holding.collection.idOf object)) errand.start)
      (fun _ => errand.Stopped) (session.list errand.holding.collection) world := by
  apply Meets.remote
  · intro objects after answered
    exact lacks.seek rfl next_of_listed answered
  · intro failure after answered
    exact (lacks.seek rfl rfl answered).imp_right Lacks.stopped

theorem Lacks.create {session : Remote.Session} {payload : errand.holding.collection.Payload}
    (lacks : errand.Lacks world) :
    Meets errand.Answers errand.Step
      (fun object => errand.At (.made (errand.holding.collection.idOf object)) errand.start)
      (fun _ => errand.Stopped) (session.create errand.holding.collection payload) world := by
  apply Meets.remote
  · intro object after answered
    exact lacks.seek rfl next_of_created answered
  · intro failure after answered
    have ⟨befits, lost⟩ := lacks.seek rfl next_of_created answered
    exact ⟨befits, .lost, errand.start, lost, trivial⟩

/-! ## The frame of a pass -/

theorem start_at {stored : Resource kind}
    (recorded : errand.holding.entry stored.statusOrEmpty = errand.start) :
    errand.At errand.first errand.start (stored, []) :=
  ⟨rfl, recorded, .inl rfl⟩

/-- What the pass was given is no news. -/
theorem first_isKept : errand.first.IsKept entry := by
  rw [first]
  cases (errand.holding.entry errand.subject.statusOrEmpty).id <;> trivial

theorem hold_aside : Asks errand.Aside (hold errand.subject) :=
  hold_asks _ ⟨rfl, rfl, rfl, fun _ _ => Effect.noConfusion⟩

/-- A pass comes by the object in hand and writes down what it is, or it stops. -/
theorem finish_meets {converge : Staged α} {succeed : α → Pass Action} {ids : α → UInt32}
    {bounds : α → Bool}
    (converges : Meets errand.Answers errand.Step
      (fun outcome => errand.Has (ids outcome) (bounds outcome)) (fun _ => errand.Stopped) converge
      world)
    (succeeds : ∀ outcome after, errand.Has (ids outcome) (bounds outcome) after →
      Meets errand.Answers errand.Step (fun _ => errand.Done) (fun _ => errand.Stopped)
        (succeed outcome) after) :
    Meets errand.Answers errand.Step (fun _ => errand.Done) (fun _ => errand.Stopped)
      (finish context errand.subject converge succeed) world := by
  apply Meets.finish (converges.mono succeeds fun _ _ stopped => stopped)
  · intro _ event before after ⟨hand, entry, stands, kept⟩ told
    have ⟨befits, still⟩ := stands.aside (aside_of_publish event) told
    exact ⟨befits, hand, entry, still, kept⟩
  · intro _ before ⟨hand, entry, stands, kept⟩ change
    refine stands.mapConditions.mono (fun _ after stands => ?_) fun _ _ never => never.elim
    exact ⟨hand, entry, stands, kept⟩

/-- At last a pass writes down which object it has in hand. -/
theorem Has.conclude {change : kind.Status → kind.Status} {action : Action}
    (has : errand.Has id bound world)
    (tells : ∀ status, errand.holding.entry (change status) = ⟨some id, bound⟩) :
    Meets errand.Answers errand.Step (fun _ => errand.Done) (fun _ => errand.Stopped)
      (do
        updateStatus context kind errand.key change
        return action) world := by
  obtain ⟨hand, entry, stands, records⟩ := has
  apply Meets.bind
  refine (stands.updateStatus (fun status _ => tells status) (.inr records)).mono ?_
    fun _ _ never => never.elim
  intro _ after stands
  exact ⟨hand, _, stands, records⟩

/-- Before it is written down, it may be told that something was done about the object. -/
theorem Has.conclude_told {change : kind.Status → kind.Status} {action : Action} {reason note : String}
    (has : errand.Has id bound world)
    (tells : ∀ status, errand.holding.entry (change status) = ⟨some id, bound⟩) :
    Meets errand.Answers errand.Step (fun _ => errand.Done) (fun _ => errand.Stopped)
      (do
        announceDone errand.subject reason note
        updateStatus context kind errand.key change
        return action) world := by
  obtain ⟨hand, entry, stands, records⟩ := has
  apply Meets.bind
  apply Meets.publish
  intro later told
  have ⟨befits, still⟩ := stands.aside (aside_of_publish _) told
  have has : errand.Has id bound later := ⟨hand, entry, still, records⟩
  exact ⟨befits, has.conclude tells⟩

end Errand

end ProxyOperator
