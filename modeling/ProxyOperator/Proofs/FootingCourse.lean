import ProxyOperator.Proofs.FootingPasses
import ProxyOperator.Proofs.Playing
/-!
What holds of the footing of a resource over any number of passes on it, however they end and whatever
happens in between.
-/
namespace ProxyOperator

open Scene

namespace Adopting

variable {kind : Kind}

/-- Passes on resources of a kind change the footing only as they may, if it is sound. -/
def Upkeep (adopting : Adopting kind) : Prop :=
  (Scene.setting kind).Upholds (fun scene => (adopting.footingOf scene.stored).Sound)
    (Keeps adopting)

theorem Upkeep.of_reconcile {adopting : Adopting kind}
    (meets : ∀ {context resource} {scene : Scene kind}, resource.metadata.isDeleting = false →
      (adopting.footingOf resource).Sound →
      scene.Stands adopting resource [] (adopting.footingOf resource) →
      Attempt.Meets Answers (Keeps adopting) (fun _ _ => True) (fun _ _ => True)
        (reconcile context kind resource) scene) :
    adopting.Upkeep where
  begins := by
    intro before pass after sound begun
    have same := footingOf_edited adopting begun.stored
    refine ⟨same.symm ▸ sound, ?_⟩
    rcases begun.pass with ⟨context, rfl⟩
    refine Program.Meets.mono (fun _ _ _ => trivial) (meets begun.remains sound ?_)
    exact ⟨begun.subject, fun _ member => (nomatch member), same⟩
  exchanges sound _ kept := kept.sound sound
  disturbs sound edit := footingOf_edited adopting edit ▸ sound

theorem proxyHosts_upkeep : proxyHosts.Upkeep :=
  .of_reconcile Reconcile.ProxyHosts.reconcile_meets

theorem streams_upkeep : streams.Upkeep :=
  .of_reconcile Reconcile.Streams.reconcile_meets

/-- The pass that runs, or ran last, listed an object that its declaration is about and asks to adopt. -/
def Found (adopting : Adopting kind) (scene : Scene kind) (id : UInt32)
    (snapshot : adopting.Snapshot) : Prop :=
  ∃ session objects object,
    ⟨.remote session (.list adopting.collection), .ok objects⟩ ∈ scene.seen ∧
    adopting.binds scene.subject.spec = true ∧
    adopting.wanted scene.subject.spec objects = some object ∧
    adopting.collection.idOf object = id ∧ adopting.snapshot object = snapshot

/-- What is recorded at a moment since the start: a snapshot just where the object was there before, and
then an id; all of it is still recorded at any later moment; and a snapshot was written where nothing
was recorded, of an object that the pass which wrote it had found. -/
structure Recorded (adopting : Adopting kind) (start moment : Moment (Scene kind)) : Prop where
  bound_iff_initial : (adopting.footingOf moment.world.stored).bound = true ↔
    (adopting.footingOf moment.world.stored).initial.isSome
  id_of_bound : (adopting.footingOf moment.world.stored).bound = true →
    (adopting.footingOf moment.world.stored).id.isSome
  lasts : ∀ later, (Scene.setting kind).Reaches moment later →
    (adopting.footingOf moment.world.stored).Lasts (adopting.footingOf later.world.stored)
  found : ∀ id snapshot, adopting.footingOf moment.world.stored = .adopted id snapshot →
    ∃ before after, (Scene.setting kind).Reaches start before ∧
      (Scene.setting kind).Step before after ∧ (Scene.setting kind).Reaches after moment ∧
      adopting.footingOf before.world.stored = .nothing ∧
      adopting.footingOf after.world.stored = .adopted id snapshot ∧
      adopting.Found before.world id snapshot

variable {adopting : Adopting kind} {start moment : Moment (Scene kind)}

/-- What is recorded of an object that was there before is all there is to record. -/
theorem Recorded.eq_adopted (recorded : adopting.Recorded start moment)
    (bound : (adopting.footingOf moment.world.stored).bound = true) :
    ∃ id snapshot, adopting.footingOf moment.world.stored = .adopted id snapshot := by
  rcases Option.isSome_iff_exists.mp (recorded.id_of_bound bound) with ⟨id, known⟩
  rcases Option.isSome_iff_exists.mp (recorded.bound_iff_initial.mp bound) with ⟨snapshot, kept⟩
  refine ⟨id, snapshot, ?_⟩
  unfold Footing.adopted
  rw [← known, ← kept, ← bound]

/-- Only the exchanges of passes change a footing. -/
theorem Upkeep.change {before after : Scene kind}
    (shift : (Scene.setting kind).Shift (Keeps adopting) before after) :
    Footing.Change adopting before.subject before.seen (adopting.footingOf before.stored)
      (adopting.footingOf after.stored) := by
  cases shift with
  | begin begun => exact footingOf_edited adopting begun.stored ▸ .kept _
  | exchange answered kept => exact kept
  | leave => exact .kept _
  | disturb edit => exact footingOf_edited adopting edit ▸ .kept _

theorem Upkeep.found (upkeep : adopting.Upkeep)
    (nothing : adopting.footingOf start.world.stored = .nothing)
    (standing : (Scene.setting kind).Standing
      (fun scene => (adopting.footingOf scene.stored).Sound) (Keeps adopting) start)
    (reaches : (Scene.setting kind).Reaches start moment) (id : UInt32)
    (snapshot : adopting.Snapshot)
    (recorded : adopting.footingOf moment.world.stored = .adopted id snapshot) :
    ∃ before after, (Scene.setting kind).Reaches start before ∧
      (Scene.setting kind).Step before after ∧ (Scene.setting kind).Reaches after moment ∧
      adopting.footingOf before.world.stored = .nothing ∧
      adopting.footingOf after.world.stored = .adopted id snapshot ∧
      adopting.Found before.world id snapshot := by
  induction reaches with
  | refl => cases nothing.symm.trans recorded
  | @tail before after earlier taken induction =>
      have shift := (upkeep.advance (upkeep.reaches standing earlier) taken).2
      have change := Upkeep.change shift
      generalize was : adopting.footingOf before.world.stored = footing at change induction
      rw [recorded] at change
      cases change with
      | kept =>
          rcases induction rfl with ⟨first, second, start, step, further, rest⟩
          exact ⟨first, second, start, step, further.tail taken, rest⟩
      | adopted answered asked found =>
          exact ⟨before, after, earlier, taken, .refl, was, recorded, _, _, _, answered, asked,
            found, rfl, rfl⟩

theorem footingOf_fresh (adopting : Adopting kind) {resource : Resource kind}
    (fresh : resource.status = none) : adopting.footingOf resource = .nothing := by
  unfold Adopting.footingOf Resource.statusOrEmpty
  rw [fresh]
  exact adopting.footing_empty

theorem Upkeep.recorded (upkeep : adopting.Upkeep) {resource : Resource kind}
    (fresh : resource.status = none)
    (reaches : (Scene.setting kind).Reaches (.still ⟨resource, resource, []⟩) moment) :
    adopting.Recorded (.still ⟨resource, resource, []⟩) moment := by
  have nothing := adopting.footingOf_fresh fresh
  have standing : (Scene.setting kind).Standing
      (fun scene => (adopting.footingOf scene.stored).Sound) (Keeps adopting)
      (.still ⟨resource, resource, []⟩) :=
    .still (nothing.symm ▸ .nothing)
  have reached := upkeep.reaches standing reaches
  exact {
    bound_iff_initial := reached.steady.bound_iff_initial
    id_of_bound := reached.steady.id_of_bound
    lasts := fun later further => upkeep.related (fun first second =>
      (adopting.footingOf first.stored).Lasts (adopting.footingOf second.stored)) (fun _ => .refl _) .trans
      (fun _ shift => (Upkeep.change shift).lasts) reached further
    found := upkeep.found nothing standing reaches }

end Adopting

/-- What is recorded of the remote object of a host or a stream that starts without a status. -/
theorem recorded_once :
    (∀ (host : ProxyHost) (moment : Moment (Scene .proxyHost)), host.status = none →
      (Scene.setting .proxyHost).Reaches (.still ⟨host, host, []⟩) moment →
      Adopting.proxyHosts.Recorded (.still ⟨host, host, []⟩) moment) ∧
    (∀ (stream : Stream) (moment : Moment (Scene .stream)), stream.status = none →
      (Scene.setting .stream).Reaches (.still ⟨stream, stream, []⟩) moment →
      Adopting.streams.Recorded (.still ⟨stream, stream, []⟩) moment) :=
  ⟨fun _ _ fresh reaches => Adopting.proxyHosts_upkeep.recorded fresh reaches,
    fun _ _ fresh reaches => Adopting.streams_upkeep.recorded fresh reaches⟩

/-- A host adopts a remote host, and a stream adopts a remote stream, and that is recorded. Then the declarations are
edited, and further passes write to what was adopted. -/
theorem recorded_once_adopted :
    (∃ (host : ProxyHost) (adopted later : Scene .proxyHost), host.status = none ∧
      (Scene.setting .proxyHost).Reaches (.still ⟨host, host, []⟩) (.still adopted) ∧
      ProxyHost.remoteId adopted.stored = some 99 ∧ ProxyHost.isBound adopted.stored = true ∧
      adopted.stored.status.bind (·.initial) = some (.of (Sample.remote none)) ∧
      (Scene.setting .proxyHost).Reaches (.still adopted) (.still later) ∧
      later.stored.spec.bindExisting = false ∧
      later.seen.any (·.request.updates .proxyHosts 99) = true ∧
      Adopting.proxyHosts.Recorded (.still ⟨host, host, []⟩) (.still adopted) ∧
      Adopting.proxyHosts.Recorded (.still ⟨host, host, []⟩) (.still later)) ∧
    ∃ (stream : Stream) (adopted later : Scene .stream), stream.status = none ∧
      (Scene.setting .stream).Reaches (.still ⟨stream, stream, []⟩) (.still adopted) ∧
      Stream.remoteId adopted.stored = some 7 ∧ Stream.isBound adopted.stored = true ∧
      adopted.stored.status.bind (·.initial) = some (.of Sample.legacyStream) ∧
      (Scene.setting .stream).Reaches (.still adopted) (.still later) ∧
      later.stored.spec.incomingPort = 9001 ∧
      later.seen.any (·.request.updates .streams 7) = true ∧
      Adopting.streams.Recorded (.still ⟨stream, stream, []⟩) (.still adopted) ∧
      Adopting.streams.Recorded (.still ⟨stream, stream, []⟩) (.still later) := by
  have faithful := Sample.server_faithful (Sample.remote none)
  constructor
  · let host := Sample.host "web" true [⟨"10.0.0.1", 80⟩]
    let unbinding := (Sample.host "web" false [⟨"10.0.0.2", 8080⟩]).spec
    have first := Scene.reaches_passed faithful Sample.context ⟨host, host, []⟩ rfl
    have second := Scene.reaches_resumed faithful Sample.context host unbinding (by decide +kernel)
    refine ⟨host, _, _, rfl, first, ?_, ?_, ?_, second, ?_, ?_, recorded_once.1 host _ rfl first,
      recorded_once.1 host _ rfl (first.trans second)⟩
    all_goals decide +kernel
  · let stream := Sample.tunnel 9000 ⟨"10.0.0.1", 5432⟩
    let moved := (Sample.tunnel 9001 ⟨"10.0.0.2", 53⟩).spec
    have first := Scene.reaches_passed faithful Sample.context ⟨stream, stream, []⟩ rfl
    have second := Scene.reaches_resumed faithful Sample.context stream moved (by decide +kernel)
    refine ⟨stream, _, _, rfl, first, ?_, ?_, ?_, second, ?_, ?_, recorded_once.2 stream _ rfl first,
      recorded_once.2 stream _ rfl (first.trans second)⟩
    all_goals decide +kernel

end ProxyOperator
