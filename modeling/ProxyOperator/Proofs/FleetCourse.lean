import ProxyOperator.Proofs.Fleet
import ProxyOperator.Proofs.Playing
/-!
Which remote hosts of others a fleet deletes. A host that is let go deletes the remote host that was made
for it, and asks nobody; if another host adopted that one in the meantime, it loses it. Unless the server
gives an id to a new host that is still on record, that is the only way for an adopted remote host to be
deleted.
-/
namespace ProxyOperator

open Attempt Reconcile

namespace Fleet

variable {ι : Type} {start moment next : Moment (Fleet ι)} {before after : Fleet ι} {maker taker : ι}
  {id : UInt32}

/-! ## How two hosts come to record one remote host -/

/-- At some step of a run a host adopted the remote host of an id while the status of another one said
that it was made for that one. -/
def Taken (start moment : Moment (Fleet ι)) (maker taker : ι) (id : UInt32) : Prop :=
  ∃ before after, (setting ι).Reaches start before ∧ (setting ι).Step before after ∧
    (setting ι).Reaches after moment ∧ before.world.footing maker = .made id ∧
    before.world.footing taker = .nothing ∧
    ∃ snapshot, after.world.footing taker = .adopted id snapshot

/-- At some step of a run a host recorded a remote host that the server had just made with an id, while
the status of another one said that it had adopted the remote host of that id. -/
def Regiven (start moment : Moment (Fleet ι)) (maker taker : ι) (id : UInt32) : Prop :=
  ∃ before after, (setting ι).Reaches start before ∧ (setting ι).Step before after ∧
    (setting ι).Reaches after moment ∧
    (∃ session payload object, object.id = id ∧
      ⟨.remote session (.create .proxyHosts payload), .ok object⟩ ∈ before.world.seen) ∧
    before.world.footing maker = .nothing ∧ after.world.footing maker = .made id ∧
    ∃ snapshot, before.world.footing taker = .adopted id snapshot

theorem Taken.tail (taken : Taken start moment maker taker id) (step : (setting ι).Step moment next) :
    Taken start next maker taker id := by
  rcases taken with ⟨before, after, earlier, adopts, further, rest⟩
  exact ⟨before, after, earlier, adopts, further.tail step, rest⟩

theorem Regiven.tail (regiven : Regiven start moment maker taker id)
    (step : (setting ι).Step moment next) : Regiven start next maker taker id := by
  rcases regiven with ⟨before, after, earlier, makes, further, rest⟩
  exact ⟨before, after, earlier, makes, further.tail step, rest⟩

/-- A step changes the footing of no host but the one whose pass runs. -/
theorem footing_shift (orderly : before.Orderly) (shift : (setting ι).Shift Keeps before after)
    (index : ι) : after.footing index = before.footing index ∨ index = before.turn ∧
      Footing.Change .proxyHosts before.subject before.seen (before.footing index)
        (after.footing index) := by
  cases shift with
  | begin begun => exact .inl (begun.drifts.footing index)
  | exchange answered kept =>
      by_cases own : index = before.turn
      · subst own
        exact .inr ⟨rfl, kept.change answered⟩
      · exact .inl (answered.footing_other orderly kept.2 own)
  | leave => exact .inl rfl
  | disturb disturbed => exact .inl (disturbed.1.footing index)

theorem footing_lasts (standing : (setting ι).Standing Orderly Keeps start)
    (reaches : (setting ι).Reaches start moment) (index : ι) :
    (start.world.footing index).Lasts (moment.world.footing index) := by
  refine upholds.related (fun first second => (first.footing index).Lasts
    (second.footing index)) (fun _ => .refl _) .trans (fun orderly shift => ?_) standing reaches
  rcases footing_shift orderly shift index with same | ⟨-, change⟩
  · rw [same]
    exact .refl _
  · exact change.lasts

/-- Where one host records a remote host as made and another one records it as adopted, both did so
before, or one of them has just come to do so. -/
theorem footings_shift (orderly : before.Orderly) (shift : (setting ι).Shift Keeps before after)
    {snapshot : ProxyHost.Snapshot} (made : after.footing maker = .made id)
    (adopted : after.footing taker = .adopted id snapshot) :
    before.footing maker = .made id ∧ before.footing taker = .adopted id snapshot ∨
      before.footing maker = .made id ∧ before.footing taker = .nothing ∨
      (∃ session payload object, object.id = id ∧
        ⟨.remote session (.create .proxyHosts payload), .ok object⟩ ∈ before.seen) ∧
        before.footing maker = .nothing ∧ before.footing taker = .adopted id snapshot := by
  have different : maker ≠ taker := by
    rintro rfl
    cases made.symm.trans adopted
  rcases footing_shift orderly shift maker with same | ⟨own, change⟩
  · rw [made] at same
    rcases footing_shift orderly shift taker with still | ⟨-, change⟩
    · exact .inl ⟨same.symm, still.symm.trans adopted⟩
    · rcases change.elim with still | ⟨nothing, -⟩
      · exact .inl ⟨same.symm, still.symm.trans adopted⟩
      · exact .inr (.inl ⟨same.symm, nothing⟩)
  · have still : before.footing taker = .adopted id snapshot := by
      rcases footing_shift orderly shift taker with still | ⟨turn, -⟩
      · exact still.symm.trans adopted
      · exact (different (own.trans turn.symm)).elim
    rw [made] at change
    rcases change.elim with same | ⟨nothing, created | adopts⟩
    · exact .inl ⟨same.symm, still⟩
    · rcases created with ⟨session, payload, object, answered, same⟩
      have given : id = object.id := Option.some.inj (congrArg Footing.id same)
      exact .inr (.inr ⟨⟨session, payload, object, given.symm, answered⟩, nothing, still⟩)
    · rcases adopts with ⟨_, _, _, -, -, same⟩
      cases congrArg Footing.bound same

theorem taken_or_regiven (nothing : ∀ index, start.world.footing index = .nothing)
    (standing : (setting ι).Standing Orderly Keeps start)
    (reaches : (setting ι).Reaches start moment) {snapshot : ProxyHost.Snapshot}
    (made : moment.world.footing maker = .made id)
    (adopted : moment.world.footing taker = .adopted id snapshot) :
    Taken start moment maker taker id ∨ Regiven start moment maker taker id := by
  induction reaches with
  | refl => cases (nothing taker).symm.trans adopted
  | tail earlier step induction =>
      have reached := upholds.reaches standing earlier
      have shift := (upholds.advance reached step).2
      rcases footings_shift reached.steady shift made adopted with both | takes | makes
      · exact (induction both.1 both.2).imp (·.tail step) (·.tail step)
      · exact .inl ⟨_, _, earlier, step, .refl, takes.1, takes.2, snapshot, adopted⟩
      · exact .inr ⟨_, _, earlier, step, .refl, makes.1, makes.2.1, made, snapshot, makes.2.2⟩

/-! ## What is deleted -/

/-- A pass that is about to delete a remote host is one on the host that it was made for. -/
theorem made_of_deletes {session : Remote.Session} {further : Except Failure Unit → Running}
    {fleet : Fleet ι} (standing : (setting ι).Standing Orderly Keeps
      ⟨fleet, some (.ask (.remote session (.delete .proxyHosts id)) further)⟩) :
    fleet.footing fleet.turn = .made id := by
  have orderly := standing.steady
  have edit (host : ProxyHost) : host.Edited host := ⟨rfl, rfl⟩
  -- What is asked does not depend on the answer, so that a refusal will do.
  have refused : Answers fleet ⟨.remote session (.delete .proxyHosts id), .error default⟩
      { fleet with
        seen := fleet.seen ++ [⟨.remote session (.delete .proxyHosts id), .error default⟩] } :=
    ⟨⟨⟨_, .elsewhere not_false, edit _⟩, trivial, rfl, rfl⟩,
      fun _ _ => ⟨_, .elsewhere not_false, edit _⟩, rfl⟩
  rcases (standing.running _ rfl _ _ refused).1.2 with ⟨-, known, own⟩
  rw [← Adopting.proxyHosts_footingOf_id] at known
  rw [← Adopting.proxyHosts_footingOf_bound] at own
  have still := orderly.begun.bound (by rw [known]; rfl)
  exact (orderly.sound _).eq_made (orderly.begun.id id known) (still.trans own)

theorem unmanaged_orderly {hosts : ι → ProxyHost} {first : ι}
    (nothing : ∀ index, Adopting.proxyHosts.footingOf (hosts index) = .nothing)
    (apart : ∀ one other, (hosts one).metadata.spokenKey = (hosts other).metadata.spokenKey →
      one = other) :
    (unmanaged hosts first).Orderly where
  called := rfl
  apart := apart
  sound index := by
    rw [show (unmanaged hosts first).footing index = .nothing from nothing index]
    exact .nothing
  begun := .refl _

/-- A fleet starts without statuses. When a remote host is about to be deleted, the status of a host says
that it adopted that one just where it did so while the status of the host that is let go said that it was
made for that one, or where the server gave an id to that one that was on record. -/
theorem deletes_adopted_iff {hosts : ι → ProxyHost} {first : ι}
    (fresh : ∀ index, (hosts index).status = none)
    (apart : ∀ one other, (hosts one).metadata.spokenKey = (hosts other).metadata.spokenKey →
      one = other)
    {fleet : Fleet ι} {session : Remote.Session} {further : Except Failure Unit → Running}
    (reaches : (setting ι).Reaches (.still (unmanaged hosts first))
      ⟨fleet, some (.ask (.remote session (.delete .proxyHosts id)) further)⟩) (index : ι) :
    ((fleet.stored index).remoteId = some id ∧ (fleet.stored index).isBound = true) ↔
      Taken (.still (unmanaged hosts first))
          ⟨fleet, some (.ask (.remote session (.delete .proxyHosts id)) further)⟩
          fleet.turn index id ∨
        Regiven (.still (unmanaged hosts first))
          ⟨fleet, some (.ask (.remote session (.delete .proxyHosts id)) further)⟩
          fleet.turn index id := by
  have nothing : ∀ index, Adopting.proxyHosts.footingOf (hosts index) = .nothing := by
    intro index
    unfold Adopting.footingOf Resource.statusOrEmpty
    rw [fresh]
    rfl
  have standing : (setting ι).Standing Orderly Keeps (.still (unmanaged hosts first)) :=
    .still (unmanaged_orderly nothing apart)
  have reached := upholds.reaches standing reaches
  rw [← Adopting.proxyHosts_footingOf_id, ← Adopting.proxyHosts_footingOf_bound]
  -- What a host says of an object that it adopted it says from then on.
  have lasting : ∀ {between : Moment (Fleet ι)} {snapshot : ProxyHost.Snapshot},
      (setting ι).Reaches (.still (unmanaged hosts first)) between →
      (setting ι).Reaches between
        ⟨fleet, some (.ask (.remote session (.delete .proxyHosts id)) further)⟩ →
      between.world.footing index = .adopted id snapshot →
      (fleet.footing index).id = some id ∧ (fleet.footing index).bound = true := by
    intro between snapshot earlier later adopted
    have lasts := footing_lasts (upholds.reaches standing earlier) later index
    rw [adopted] at lasts
    exact ⟨lasts.id id rfl, lasts.bound rfl⟩
  constructor
  · rintro ⟨known, bound⟩
    rcases (reached.steady.sound index).eq_adopted known bound with ⟨snapshot, adopted⟩
    exact taken_or_regiven nothing standing reaches (made_of_deletes reached) adopted
  · rintro (⟨before, after, earlier, step, later, -, -, snapshot, adopted⟩ |
      ⟨before, after, earlier, step, later, -, -, -, snapshot, adopted⟩)
    · exact lasting (earlier.tail step) later adopted
    · exact lasting earlier (.head step later) adopted

/-! ## A fleet of two -/

/-- A fleet of two hosts, of which the one whose turn it is is served as in a scene of its own. -/
def respond (elsewhere : (request : Effect) → Option request.Answer) :
    Responder Effects (Fleet Bool) :=
  fun fleet request =>
    if fleet.keyOf (!fleet.turn) = fleet.subject.metadata.spokenKey then none
    else (Scene.respond elsewhere fleet.scene request).map fun response =>
      (response.1, { fleet with
        stored := fun index => if index = fleet.turn then response.2.stored else fleet.stored index
        subject := response.2.subject
        seen := response.2.seen })

theorem respond_allowed (elsewhere : (request : Effect) → Option request.Answer) :
    Program.Allowed Answers (respond elsewhere) := by
  intro fleet request answer after answered
  unfold respond at answered
  split at answered
  · cases answered
  · next apart =>
    rcases Option.map_eq_some_iff.mp answered with ⟨⟨_, scene⟩, served, same⟩
    rcases Prod.mk.inj same with ⟨rfl, rfl⟩
    have own := Scene.respond_allowed _ _ _ _ _ served
    refine ⟨?_, fun index other => ⟨_, .elsewhere fun concerns => ?_, ?_, ?_⟩, rfl⟩
    · unfold Fleet.scene
      dsimp only
      rw [if_pos rfl]
      exact own
    · rcases Option.map_eq_some_iff.mp served with ⟨_, known, -⟩
      obtain rfl : index = !fleet.turn := Bool.eq_not.mpr other
      exact apart (Scene.answer?_concerns known concerns)
    · dsimp only
      rw [if_neg other]
    · dsimp only
      rw [if_neg other]

def turnTo (fleet : Fleet Bool) (index : Bool) : Fleet Bool :=
  { fleet with turn := index, subject := fleet.stored index, seen := [] }

/-- What is left of a pass on a host, and the fleet, after all that the world knows. -/
def visit (elsewhere : (request : Effect) → Option request.Answer) (index : Bool)
    (fleet : Fleet Bool) : Running × Fleet Bool :=
  (reconcile Sample.context .proxyHost (fleet.stored index)).run.play (respond elsewhere)
    (fleet.turnTo index)

theorem visit_reaches (elsewhere : (request : Effect) → Option request.Answer) (index : Bool)
    (fleet : Fleet Bool) : (setting Bool).Reaches (.still fleet)
      ⟨(fleet.visit elsewhere index).2, some (fleet.visit elsewhere index).1⟩ := by
  obtain ⟨log, goes⟩ := (respond_allowed elsewhere).goes
    (reconcile Sample.context .proxyHost (fleet.stored index)).run (fleet.turnTo index)
  have begun : (setting Bool).Step (.still fleet) ⟨fleet.turnTo index,
      some (reconcile Sample.context .proxyHost (fleet.stored index)).run⟩ :=
    .begin ⟨⟨Sample.context, rfl⟩, fun _ => ⟨rfl, rfl⟩, rfl, rfl⟩
  exact .head begun (Setting.reaches_of_goes goes)

def letGo (index : Bool) (fleet : Fleet Bool) : Fleet Bool :=
  { fleet with stored := fun other =>
      if other = index then Sample.deleting (fleet.stored other) else fleet.stored other }

theorem letGo_drifts (index : Bool) (fleet : Fleet Bool) : fleet.Drifts (fleet.letGo index) := by
  intro other
  unfold letGo
  dsimp only
  split
  · exact ⟨rfl, rfl⟩
  · exact ⟨rfl, rfl⟩

/-- A host made a remote host and is let go, and another one adopts that remote host before the first one
is gone. -/
theorem deletes_adopted_iff_lost :
    ∃ (hosts : Bool → ProxyHost) (moment : Moment (Fleet Bool)),
      (setting Bool).Reaches (.still (unmanaged hosts false)) moment ∧
      (moment.running.bind Program.request?).bind Effect.deletedHost? = some 99 ∧
      (moment.world.stored true).metadata.isDeleting = false ∧
      (Taken (.still (unmanaged hosts false)) moment false true 99 ∨
        Regiven (.still (unmanaged hosts false)) moment false true 99) := by
  let backends : List Backend := [⟨"10.0.0.1", 80⟩]
  let hosts (index : Bool) : ProxyHost :=
    Sample.host (if index then "taker" else "maker") index backends
  let elsewhere := Sample.elsewhere (Sample.remote none)
  let made := ((unmanaged hosts false).visit elsewhere false).2.letGo false
  let taken := (made.visit elsewhere true).2
  let last := taken.visit elsewhere false
  have reaches : (setting Bool).Reaches (.still (unmanaged hosts false)) ⟨last.2, some last.1⟩ := by
    have first := (visit_reaches elsewhere false (unmanaged hosts false)).tail (.leave _ _)
    have second := first.tail (.disturb ⟨letGo_drifts false _, rfl, rfl, rfl⟩)
    have third := (second.trans (visit_reaches elsewhere true made)).tail (.leave _ _)
    exact third.trans (visit_reaches elsewhere false taken)
  have deletes : (last.1.request?.bind Effect.deletedHost?) = some 99 := by decide +kernel
  rcases Option.bind_eq_some_iff.mp deletes with ⟨request, asks, deletion⟩
  rcases Program.eq_ask_of_request? asks with ⟨further, rest⟩
  rcases Effect.eq_delete_of_deletedHost? deletion with ⟨session, rfl⟩
  have shared : (last.2.stored true).remoteId = some 99 ∧ (last.2.stored true).isBound = true := by
    decide +kernel
  rw [rest] at reaches
  have named : ∀ one other, (hosts one).metadata.spokenKey = (hosts other).metadata.spokenKey →
      one = other := by decide +kernel
  have turn : last.2.turn = false := by decide +kernel
  have remains : (last.2.stored true).metadata.isDeleting = false := by decide +kernel
  have lost := (deletes_adopted_iff (fun _ => rfl) named reaches true).mp shared
  rw [turn] at lost
  exact ⟨hosts, _, reaches, deletion, remains, lost⟩

/-- A cluster with two hosts of one domain, of which the second one asks for adoption, and a server
without remote hosts. -/
def contestedWorld : Rehearsal.World where
  tree := .object [
    ("ProxyHost", .array [
      (Resource.codec .proxyHost).encode (Sample.host "maker" false [⟨"10.0.0.1", 80⟩]),
      (Resource.codec .proxyHost).encode (Sample.host "taker" true [⟨"10.0.0.1", 80⟩])]),
    ("Token", .array [(Resource.codec .token).encode Sample.token]),
    ("remote", .object [("proxy_hosts", .array [])])]
  faults := .empty
  calls := []

/-- The first host makes a remote host, its deletion is asked for, and the second one adopts what it
made. -/
def handover : Rehearsal.Acting Unit := do
  let _ ← Rehearsal.visit Sample.context .proxyHost ⟨"apps", "maker"⟩
  Rehearsal.askDeletion .proxyHost ⟨"apps", "maker"⟩ .epoch
  let _ ← Rehearsal.visit Sample.context .proxyHost ⟨"apps", "taker"⟩

/-- The id of the remote host that a host says it adopted, if it is not let go itself. -/
def adoptedHost? (host : ProxyHost) : Option UInt32 :=
  if host.isBound && !host.metadata.isDeleting then host.remoteId else none

/-- All calls succeed, and the pass that lets go of the first host deletes the remote host that the second
one, which is not let go, says before and after that it adopted. -/
theorem deletes_adopted_contested :
    let before := (handover.run contestedWorld).2
    let after := ((Rehearsal.visit Sample.context .proxyHost ⟨"apps", "maker"⟩).run before).2
    (Rehearsal.stored? before .proxyHost ⟨"apps", "taker"⟩).bind adoptedHost? = some 1 ∧
      (Rehearsal.stored? after .proxyHost ⟨"apps", "taker"⟩).bind adoptedHost? = some 1 ∧
      before.calls.filterMap Effect.deletedHost? = [] ∧
      after.calls.filterMap Effect.deletedHost? = [1] := by
  decide +kernel

end Fleet

end ProxyOperator
