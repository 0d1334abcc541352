import ProxyOperator.Proofs.ErrandPasses
import ProxyOperator.Proofs.Playing
/-!
Runs of passes on one resource, each on the resource as it is stored then. Whatever fails in them apart from
the status, at most one object is ever made, and from then on nobody asks about another one.
-/
namespace ProxyOperator

/-- At most one object of a collection was made, and all that was asked after that was about it. -/
structure MadeOnce (collection : Remote.Collection) (log : List (Exchange Effects)) : Prop where
  once : (log.filterMap (Exchange.made? collection)).length ≤ 1
  sticks : log.Pairwise fun earlier later => ∀ id, earlier.made? collection = some id →
    later.request.Sticks collection id

theorem Effect.Sticks.made {collection : Remote.Collection} {id : UInt32}
    {exchange : Exchange Effects} (sticks : exchange.request.Sticks collection id) :
    exchange.made? collection = none := by
  apply Option.eq_none_iff_forall_ne_some.mpr
  intro other made
  have creates := Exchange.creates_of_made made
  rw [sticks.creates] at creates
  cases creates

/-- Who sticks to the object that was made makes no other one. -/
theorem MadeOnce.of_sticks {collection : Remote.Collection} {log : List (Exchange Effects)}
    (sticks : log.Pairwise fun earlier later => ∀ id, earlier.made? collection = some id →
      later.request.Sticks collection id) : MadeOnce collection log := by
  refine ⟨?_, sticks⟩
  induction sticks with
  | nil => exact Nat.zero_le _
  | @cons exchange log later _ induction =>
      cases made : exchange.made? collection with
      | none =>
          rw [List.filterMap_cons_none made]
          exact induction
      | some id =>
          rw [List.filterMap_cons_some made]
          have others : log.filterMap (Exchange.made? collection) = [] := by
            apply List.filterMap_eq_nil_iff.mpr
            intro other member
            exact (later other member id made).made
          rw [others]
          exact Nat.le_refl 1

namespace Errand

variable {kind : Kind} {errand : Errand kind} {log : List (Exchange Effects)}
  {exchange : Exchange Effects} {id : UInt32}

/-- What was on record is in hand all along. -/
theorem hand_of_recorded (recorded : (errand.holding.entry errand.subject.statusOrEmpty).id = some id)
    (log : List (Exchange Effects)) :
    errand.hand log = .known id (errand.holding.entry errand.subject.statusOrEmpty).bound := by
  have first : errand.first = .known id (errand.holding.entry errand.subject.statusOrEmpty).bound := by
    rw [Errand.first, recorded]
    rfl
  have something : errand.hand [] ≠ .nothing := by
    change errand.first ≠ .nothing
    rw [first]
    exact Hand.noConfusion
  exact (hand_of_ne something log).trans first

/-- Once a pass made an object it sticks to it. -/
theorem Follows.sticks (follows : errand.Follows log) :
    log.Pairwise fun earlier later => ∀ id, earlier.made? errand.holding.collection = some id →
      later.request.Sticks errand.holding.collection id := by
  induction log using List.reverseRecOn with
  | nil => exact .nil
  | append_singleton log last induction =>
      apply List.pairwise_append.mpr
      refine ⟨induction follows.take, List.pairwise_singleton _ _, ?_⟩
      intro earlier member later same id made
      obtain rfl := List.mem_singleton.mp same
      apply follows.last.sticks
      rw [follows.take.hand_eq_made member made]
      rfl

/-- A pass that begins with an object on record sticks to it. -/
theorem Follows.sticks_recorded (follows : errand.Follows log)
    (recorded : (errand.holding.entry errand.subject.statusOrEmpty).id = some id)
    (member : exchange ∈ log) : exchange.request.Sticks errand.holding.collection id := by
  obtain ⟨earlier, later, split⟩ := List.append_of_mem member
  apply (follows earlier exchange later split).sticks
  rw [hand_of_recorded recorded]
  rfl

end Errand

/-! ## Runs -/

/-- Passes that ran on a resource, one after the other and each on what was stored when it began, and
edits in between; with all that the passes asked and were answered. -/
inductive Passes {kind : Kind} (start : Resource kind) :
    List (Exchange Effects) → Resource kind → Prop
  | none : Passes start [] start
  | edit {log : List (Exchange Effects)} {stored edited : Resource kind}
      (earlier : Passes start log stored) (edit : stored.Edited edited) : Passes start log edited
  | pass {log seen : List (Exchange Effects)} {stored after : Resource kind} {context : Context}
      {outcome : Except Failure Action} (earlier : Passes start log stored)
      (remains : stored.metadata.isDeleting = false)
      (goes : Program.Goes (Obliges stored.metadata.spokenKey) (reconcile context kind stored).run
        stored seen (.done outcome) after) : Passes start (log ++ seen) after

namespace Passes

variable {kind : Kind} {holding : Holding kind} {start stored after : Resource kind}
  {log seen : List (Exchange Effects)} {rest : Running} {id : UInt32}

/-- Between passes the object that was made is the one on record. -/
structure Steady (holding : Holding kind) (log : List (Exchange Effects)) (stored : Resource kind) :
    Prop where
  sticks : log.Pairwise fun earlier later => ∀ id, earlier.made? holding.collection = some id →
    later.request.Sticks holding.collection id
  recorded : ∀ exchange ∈ log, ∀ id, exchange.made? holding.collection = some id →
    (holding.entry stored.statusOrEmpty).id = some id

/-- A pass on what is stored, as an errand. -/
abbrev errand (holding : Holding kind) (stored : Resource kind) : Errand kind :=
  ⟨holding, stored, holding.entry stored.statusOrEmpty⟩

theorem Steady.append (steady : Steady holding log stored)
    (follows : (errand holding stored).Follows seen) :
    (log ++ seen).Pairwise fun earlier later => ∀ id,
      earlier.made? holding.collection = some id → later.request.Sticks holding.collection id := by
  apply List.pairwise_append.mpr
  refine ⟨steady.sticks, follows.sticks, ?_⟩
  intro earlier isEarlier later isLater id made
  exact follows.sticks_recorded (steady.recorded earlier isEarlier id made) isLater

/-- When a pass has ended, what it made is on record, and so is what was made before. -/
theorem Steady.ends {outcome : Except Failure Action} (steady : Steady holding log stored)
    (traced : (errand holding stored).Traced seen (.done outcome) after) :
    Steady holding (log ++ seen) after := by
  refine ⟨steady.append traced.follows, ?_⟩
  obtain ⟨hand, entry, stands, kept⟩ := traced.stopped outcome rfl
  intro exchange member id made
  rw [stands.onRecord]
  have inHand := stands.inHand
  dsimp only at inHand
  rcases List.mem_append.mp member with earlier | now
  · have recorded := steady.recorded exchange earlier id made
    rw [Errand.hand_of_recorded recorded] at inHand
    rcases stands.agrees with same | records
    · rw [same]
      exact recorded
    · rw [records.id, ← inHand]
      rfl
  · rw [traced.follows.hand_eq_made now made] at inHand
    rw [← inHand] at kept
    exact kept

theorem steady (own : kind.holding? = some holding) (passes : Passes start log stored) :
    Steady holding log stored := by
  induction passes with
  | none => exact ⟨.nil, fun _ member => nomatch member⟩
  | edit _ edit induction =>
      refine ⟨induction.sticks, ?_⟩
      rw [edit.statusOrEmpty]
      exact induction.recorded
  | @pass log seen stored after context outcome _ remains goes induction =>
      exact induction.ends (Errand.traced (errand holding stored) own remains rfl goes)

end Passes

/-- Passes ran on a resource, and another one got so far: of all that was asked, at most one request made an
object of the resource's own, and what was asked later is about that object. -/
theorem created_once {kind : Kind} {holding : Holding kind} {start stored after : Resource kind}
    {log seen : List (Exchange Effects)} {context : Context} {rest : Running}
    (own : kind.holding? = some holding) (passes : Passes start log stored)
    (remains : stored.metadata.isDeleting = false)
    (goes : Program.Goes (Obliges stored.metadata.spokenKey) (reconcile context kind stored).run
      stored seen rest after) : MadeOnce holding.collection (log ++ seen) := by
  have traced := Errand.traced (Passes.errand holding stored) own remains rfl goes
  exact .of_sticks ((passes.steady own).append traced.follows)

namespace Sample

/-- What a world answers to a host `web`: its status is served, the one remote host is made when it is asked
for, and it may be that it cannot be enabled. -/
def obliging? (enables : Except Failure Unit) (stored : ProxyHost) :
    (request : Effect) → Option request.Answer
  | .read .proxyHost key => if key = ⟨"apps", "web"⟩ then some (.ok (some stored)) else none
  | .writeStatus .proxyHost key _ _ => if key = ⟨"apps", "web"⟩ then some (.ok ()) else none
  | .list .token _ => some (.ok [token])
  | .list .proxyHost _ => some (.ok [])
  | .connect _ => some (.ok ())
  | .publish _ => some ()
  | .remote _ (.create .proxyHosts _) => some (.ok { remote none with enabled := false })
  | .remote _ (.get .proxyHosts id) => some (.ok { remote none with id := id })
  | .remote _ (.update .proxyHosts id _) => some (.ok { remote none with id := id, enabled := false })
  | .remote _ (.enable _ _) => some enables
  | _ => none

def obligingStores (stored : ProxyHost) : Effect → ProxyHost
  | .writeStatus .proxyHost _ _ status => { stored with status := some status }
  | _ => stored

def obliging (enables : Except Failure Unit) : Responder Effects ProxyHost := fun stored request =>
  (obliging? enables stored request).map fun answer => (answer, obligingStores stored request)

theorem obliging_allowed (enables : Except Failure Unit) :
    Program.Allowed (Obliges ⟨"apps", "web"⟩) (obliging enables) := by
  intro stored request answer after answered
  obtain ⟨_, known, same⟩ := Option.map_eq_some_iff.mp answered
  obtain ⟨rfl, rfl⟩ := Prod.mk.inj same
  have edit (resource : ProxyHost) : resource.Edited resource := ⟨rfl, rfl⟩
  unfold obliging? at known
  split at known
  · split at known
    · next key same =>
      obtain rfl := same
      obtain rfl := Option.some.inj known
      exact ⟨⟨_, .read, edit _⟩, trivial⟩
    · cases known
  · split at known
    · next key revision status same =>
      obtain rfl := same
      obtain rfl := Option.some.inj known
      exact ⟨⟨_, .written _ _, edit _⟩, trivial⟩
    · cases known
  · exact ⟨⟨_, .elsewhere not_false, edit _⟩, trivial⟩
  · exact ⟨⟨_, .elsewhere not_false, edit _⟩, trivial⟩
  · exact ⟨⟨_, .elsewhere not_false, edit _⟩, trivial⟩
  · exact ⟨⟨_, .elsewhere not_false, edit _⟩, trivial⟩
  · exact ⟨⟨_, .elsewhere not_false, edit _⟩, trivial⟩
  · refine ⟨⟨_, .elsewhere not_false, edit _⟩, ?_⟩
    obtain rfl := Option.some.inj known
    intro object same
    obtain rfl := Except.ok.inj same
    rfl
  · refine ⟨⟨_, .elsewhere not_false, edit _⟩, ?_⟩
    obtain rfl := Option.some.inj known
    intro object same
    obtain rfl := Except.ok.inj same
    rfl
  · exact ⟨⟨_, .elsewhere not_false, edit _⟩, trivial⟩
  · cases known

end Sample

/-- A host is made and cannot be enabled, and the next pass keeps to the same host. -/
theorem created_once_disabled :
    ∃ (log seen : List (Exchange Effects)) (stored after : ProxyHost)
      (outcome : Except Failure Action),
      Passes (Sample.host "web" false [⟨"10.0.0.1", 80⟩]) log stored ∧ stored.remoteId = some 99 ∧
      Program.Goes (Obliges ⟨"apps", "web"⟩) (reconcile Sample.context .proxyHost stored).run stored
        seen (.done outcome) after ∧
      MadeOnce .proxyHosts (log ++ seen) := by
  let start := Sample.host "web" false [⟨"10.0.0.1", 80⟩]
  let respond := Sample.obliging (.error default)
  let first := (reconcile Sample.context .proxyHost start).run
  let stored := (first.play respond start).2
  let second := (reconcile Sample.context .proxyHost stored).run
  obtain ⟨log, goes⟩ := (Sample.obliging_allowed (.error default)).goes first start
  obtain ⟨outcome, ended⟩ : ∃ outcome, (first.play respond start).1 = .done outcome :=
    Program.eq_done_of_isDone (by decide +kernel)
  rw [ended] at goes
  have passes : Passes start log stored := Passes.none.pass (by decide +kernel) goes
  obtain ⟨seen, again⟩ := (Sample.obliging_allowed (.error default)).goes second stored
  obtain ⟨outcome, ended⟩ : ∃ outcome, (second.play respond stored).1 = .done outcome :=
    Program.eq_done_of_isDone (by decide +kernel)
  rw [ended] at again
  have called : stored.metadata.spokenKey = ⟨"apps", "web"⟩ := by decide +kernel
  have made := created_once rfl passes (by decide +kernel) (called ▸ again)
  exact ⟨log, seen, stored, _, outcome, passes, by decide +kernel, again, made⟩

end ProxyOperator
