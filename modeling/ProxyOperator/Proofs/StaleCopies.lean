import ProxyOperator.Proofs.CreatedOnce
/-!
Passes on copies that are out of date. A pass chooses its object by the copy that it was given, while
statuses are changed as they are stored. So a copy that lacks the object on record leads to another one, and
the status is made to tell of that one.
-/
namespace ProxyOperator

open Attempt Reconcile

/-- The request leaves a resource with the object that its status tells of: no object is made, no other one
is asked about, and no status tells anything else. -/
structure Errand.Preserves {kind : Kind} (errand : Errand kind) (id : UInt32) (bound : Bool)
    (effect : Effect) : Prop where
  sticks : effect.Sticks errand.holding.collection id
  tells : ∀ revision status, effect = .writeStatus kind errand.key revision status →
    errand.holding.entry status = ⟨some id, bound⟩

namespace Errand

variable {kind : Kind} {errand : Errand kind} {log : List (Exchange Effects)}
  {exchange : Exchange Effects} {id : UInt32} {bound : Bool} {stored after : Resource kind}
  {rest : Running}

/-- Objects of the collection were listed, and the one that the declaration is about has that id. -/
def Finds (errand : Errand kind) (id : UInt32) (log : List (Exchange Effects)) : Prop :=
  ∃ exchange ∈ log, ∃ objects object, exchange.listed? errand.holding.collection = some objects ∧
    errand.holding.wanted errand.subject.spec objects = some object ∧
    errand.holding.collection.idOf object = id

/-- How an object came into hand. -/
def Origin (errand : Errand kind) (log : List (Exchange Effects)) : Hand → Prop
  | .nothing => (errand.holding.entry errand.subject.statusOrEmpty).id = none
  | .known id bound => errand.holding.entry errand.subject.statusOrEmpty = ⟨some id, bound⟩
  | .found id => (errand.holding.entry errand.subject.statusOrEmpty).id = none ∧ errand.Finds id log
  | .made _ => ∃ exchange ∈ log, exchange.request.creates errand.holding.collection = true
  | .lost => ∃ exchange ∈ log, exchange.request.creates errand.holding.collection = true

theorem origin_first : errand.Origin [] errand.first := by
  rw [Errand.first]
  cases recorded : (errand.holding.entry errand.subject.statusOrEmpty).id with
  | none => exact recorded
  | some id =>
      change _ = _
      rw [← recorded]

theorem Origin.append {hand : Hand} (origin : errand.Origin log hand) (exchange : Exchange Effects) :
    errand.Origin (log ++ [exchange]) (errand.next hand exchange) := by
  have last : exchange ∈ log ++ [exchange] := List.mem_append_right _ List.mem_cons_self
  cases hand with
  | known => exact origin
  | found =>
      obtain ⟨unknown, other, member, found⟩ := origin
      exact ⟨unknown, other, List.mem_append_left _ member, found⟩
  | made | lost =>
      obtain ⟨other, member, creates⟩ := origin
      exact ⟨other, List.mem_append_left _ member, creates⟩
  | nothing =>
      rw [Errand.next]
      split
      · next creates =>
        cases exchange.made? errand.holding.collection with
        | none => exact ⟨exchange, last, creates⟩
        | some id => exact ⟨exchange, last, creates⟩
      · cases found : (exchange.listed? errand.holding.collection).bind
          (errand.holding.wanted errand.subject.spec) with
        | none => exact origin
        | some object =>
            obtain ⟨objects, listed, wanted⟩ := Option.bind_eq_some_iff.mp found
            exact ⟨origin, exchange, last, objects, object, listed, wanted, rfl⟩

theorem origin_hand (log : List (Exchange Effects)) : errand.Origin log (errand.hand log) := by
  induction log using List.reverseRecOn with
  | nil => exact origin_first
  | append_singleton log exchange induction =>
      rw [hand_append]
      exact induction.append exchange

/-- If no status tells anything else, then what is on record stays so. -/
theorem entry_of_preserves {α : Type} {program rest : Program Effects α}
    (goes : Program.Goes (Obliges errand.key) program stored log rest after)
    (recorded : errand.holding.entry stored.statusOrEmpty = ⟨some id, bound⟩)
    (preserves : ∀ exchange ∈ log, errand.Preserves id bound exchange.request) :
    errand.holding.entry after.statusOrEmpty = ⟨some id, bound⟩ := by
  induction goes with
  | here => exact recorded
  | @ask request next answer before between after log rest answered further induction =>
      have first := preserves _ List.mem_cons_self
      apply induction _ fun exchange member => preserves exchange (List.mem_cons_of_mem _ member)
      by_cases writes : ∃ revision status, request = .writeStatus kind errand.key revision status
      · obtain ⟨revision, status, rfl⟩ := writes
        have written := answered.status_of_write.2
        rw [Resource.statusOrEmpty, written]
        exact first.tells revision status rfl
      · have same := answered.status_of_quiet fun revision status write =>
          writes ⟨revision, status, write⟩
        rw [Resource.statusOrEmpty, same]
        exact recorded

/-! ## Which copies do no harm -/

/-- The object that the declaration is about is in hand from when it was listed. -/
theorem Follows.hand_of_finds (follows : errand.Follows log) (finds : errand.Finds id log) :
    errand.hand log = .found id := by
  obtain ⟨exchange, member, objects, object, listed, wanted, rfl⟩ := finds
  obtain ⟨before, later, split⟩ := List.append_of_mem member
  have empty := (follows before exchange later split).seeks (.inl (Exchange.lists_of_listed listed))
  have held := hand_of_listed empty listed
  rw [wanted] at held
  have something : errand.hand (before ++ [exchange]) ≠ .nothing := by
    rw [held]
    exact Hand.noConfusion
  rw [split, List.append_cons, hand_of_ne something, held]
  rfl

/-- A copy with the object on record does no harm, however far the pass gets. -/
theorem Follows.preserves_of_recorded (follows : errand.Follows log)
    (started : errand.start = ⟨some id, bound⟩)
    (recorded : errand.holding.entry errand.subject.statusOrEmpty = ⟨some id, bound⟩) :
    ∀ exchange ∈ log, errand.Preserves id bound exchange.request := by
  intro exchange member
  obtain ⟨before, later, split⟩ := List.append_of_mem member
  have befits := follows before exchange later split
  have held := hand_of_recorded (congrArg Entry.id recorded) before
  rw [recorded] at held
  rw [held] at befits
  refine ⟨befits.sticks rfl, fun revision status write => ?_⟩
  rcases befits.tells revision status write with same | records
  · rw [same]
    exact started
  · exact records

/-- A copy without an object does no harm if the pass ends without one, or finds the object on record and
it is on record that this one was there before. -/
theorem Follows.preserves_of_hand (follows : errand.Follows log)
    (started : errand.start = ⟨some id, bound⟩)
    (inHand : errand.hand log = .nothing ∨ errand.hand log = .found id ∧ bound = true) :
    ∀ exchange ∈ log, errand.Preserves id bound exchange.request := by
  intro exchange member
  have unmade : exchange.request.creates errand.holding.collection = false := by
    apply eq_false_of_ne_true
    intro creates
    rw [follows.hand_of_creates member creates] at inHand
    cases made : exchange.made? errand.holding.collection <;>
    · rw [made] at inHand
      rcases inHand with nothing | ⟨found, _⟩
      · cases nothing
      · cases found
  obtain ⟨before, later, split⟩ := List.append_of_mem member
  have befits := follows before exchange later split
  by_cases empty : errand.hand before = .nothing
  · rw [empty] at befits
    refine ⟨⟨unmade, fun other target => ?_⟩, fun revision status write => ?_⟩
    · cases befits.target other target
    · rcases befits.tells revision status write with same | records
      · rw [same]
        exact started
      · exact records.elim
  · rw [split, hand_of_ne empty] at inHand
    rcases inHand with nothing | ⟨found, rfl⟩
    · exact (empty nothing).elim
    · rw [found] at befits
      refine ⟨befits.sticks rfl, fun revision status write => ?_⟩
      rcases befits.tells revision status write with same | records
      · rw [same]
        exact started
      · exact records

end Errand

/-! ## Copies that are being deleted -/

/-- The request makes nothing, is about no object but the one that the copy tells of, and writes no
status. -/
structure Errand.Dismisses {kind : Kind} (errand : Errand kind) (effect : Effect) : Prop where
  creates : effect.creates errand.holding.collection = false
  target : ∀ id, effect.target? errand.holding.collection = some id →
    (errand.holding.entry errand.subject.statusOrEmpty).id = some id
  tells : ∀ revision status, effect ≠ .writeStatus kind errand.key revision status

namespace Errand

variable {kind : Kind} {errand : Errand kind} {effect : Effect} {id : UInt32} {bound : Bool}
  {context : Context} {session : Remote.Session}

theorem Aside.dismisses (aside : errand.Aside effect) : errand.Dismisses effect where
  creates := aside.creates
  target _ target := nomatch aside.target.symm.trans target
  tells := aside.tells

theorem dismisses_of_target {request : Remote.Request}
    (recorded : (errand.holding.entry errand.subject.statusOrEmpty).id = some id)
    (target : (Effect.remote session request).target? errand.holding.collection = some id) :
    errand.Dismisses (.remote session request) where
  creates := (Effect.seeks_of_target target).2
  target other asked := by
    rw [target] at asked
    obtain rfl := Option.some.inj asked
    exact recorded
  tells _ _ := Effect.noConfusion

theorem Dismisses.preserves (dismisses : errand.Dismisses effect)
    (recorded : (errand.holding.entry errand.subject.statusOrEmpty).id = none ∨
      errand.holding.entry errand.subject.statusOrEmpty = ⟨some id, bound⟩) :
    errand.Preserves id bound effect := by
  refine ⟨⟨dismisses.creates, fun other target => ?_⟩,
    fun revision status write => (dismisses.tells revision status write).elim⟩
  have known := dismisses.target other target
  rcases recorded with unknown | recorded
  · cases unknown.symm.trans known
  · rw [recorded] at known
    exact (Option.some.inj known).symm

theorem dismiss_dismisses {cleanup : Option (Pass String)}
    (cleans : ∀ pass ∈ cleanup, Asks errand.Dismisses pass) :
    Asks errand.Dismisses (dismiss errand.subject cleanup) := by
  apply Reconcile.dismiss_asks _ _ cleans
  · intro event
    exact (aside_of_publish event).dismisses
  · have aside : errand.Aside (.removeFinalizer kind errand.key) :=
      ⟨rfl, rfl, rfl, fun _ _ => Effect.noConfusion⟩
    exact aside.dismisses

theorem connect_dismisses (reference : Option ResourceRef) («namespace» : String) :
    Asks errand.Dismisses (connect context reference «namespace») :=
  (connect_aside context reference «namespace»).mono fun _ => Aside.dismisses

/-- The object of a resource that had it made is deleted. -/
theorem deleteOwned_dismisses {known : Option UInt32} {reference : Option ResourceRef}
    {«namespace» : String}
    (recorded : ∀ id, known = some id →
      (errand.holding.entry errand.subject.statusOrEmpty).id = some id) :
    ∀ pass ∈ known.map (deleteOwned context reference «namespace» errand.holding.collection),
      Asks errand.Dismisses pass := by
  intro pass member
  obtain ⟨id, known, rfl⟩ := Option.map_eq_some_iff.mp member
  apply Asks.bind (connect_dismisses reference «namespace»)
  intro session
  exact deleteRemote_asks (dismisses_of_target (recorded id known) (if_pos rfl))

theorem cleanup_dismisses {adopting : Adopting kind} {subject : Resource kind} {start : Entry} :
    ∀ pass ∈ adopting.cleanup context subject,
      Asks (adopting.errand subject start).Dismisses pass := by
  intro pass member
  obtain rfl := Adopting.eq_of_cleanup member
  have recorded := Cleanup.plan_id (adopting.footingOf subject).id
    (adopting.footingOf subject).bound (adopting.footingOf subject).initial
  apply Asks.bind (connect_dismisses _ _)
  intro session
  apply Adopting.cleanUp_asks
  · intro id payload planned
    exact dismisses_of_target (recorded.symm.trans planned) Effect.target_update
  · intro id planned
    exact dismisses_of_target (recorded.symm.trans planned) Effect.target_enable
  · intro id planned
    exact dismisses_of_target (recorded.symm.trans planned) (if_pos rfl)
  · intro id planned
    rw [planned] at recorded
    exact dismisses_of_target recorded.symm (if_pos rfl)

end Errand

/-- A pass on a copy that is being deleted only takes leave of the object that the copy tells of. -/
theorem Kind.reconcile_dismisses {kind : Kind} {holding : Holding kind} {subject : Resource kind}
    {start : Entry} {context : Context} (own : kind.holding? = some holding)
    (deleting : subject.metadata.isDeleting = true) :
    Asks (Errand.Dismisses ⟨holding, subject, start⟩) (reconcile context kind subject) := by
  cases kind with
  | token => cases own
  | proxyHost =>
      obtain rfl := Option.some.inj own
      change Asks _ (Reconcile.ProxyHosts.reconcile context subject)
      unfold Reconcile.ProxyHosts.reconcile
      rw [deleting]
      exact Errand.dismiss_dismisses Errand.cleanup_dismisses
  | stream =>
      obtain rfl := Option.some.inj own
      change Asks _ (Reconcile.Streams.reconcile context subject)
      unfold Reconcile.Streams.reconcile
      rw [deleting]
      exact Errand.dismiss_dismisses Errand.cleanup_dismisses
  | letsEncryptCertificate =>
      obtain rfl := Option.some.inj own
      change Asks _ (Reconcile.LetsEncryptCertificates.reconcile context subject)
      unfold Reconcile.LetsEncryptCertificates.reconcile
      rw [deleting]
      apply Errand.dismiss_dismisses (Errand.deleteOwned_dismisses _)
      intro id known
      split at known
      · cases known
      · exact known
  | customCertificate =>
      obtain rfl := Option.some.inj own
      change Asks _ (Reconcile.CustomCertificates.reconcile context subject)
      unfold Reconcile.CustomCertificates.reconcile
      rw [deleting]
      apply Errand.dismiss_dismisses (Errand.deleteOwned_dismisses _)
      intro id known
      exact (Resource.bind_status rfl).symm.trans known
  | accessList =>
      obtain rfl := Option.some.inj own
      change Asks _ (Reconcile.AccessLists.reconcile context subject)
      unfold Reconcile.AccessLists.reconcile
      rw [deleting]
      apply Errand.dismiss_dismisses (Errand.deleteOwned_dismisses _)
      intro id known
      exact (Resource.bind_status rfl).symm.trans known

/-! ## Copies and what is stored -/

/-- The pass failed before it found an object or asked for one. -/
structure Errand.Fruitless {kind : Kind} (errand : Errand kind) (log : List (Exchange Effects))
    (outcome : Except Failure Action) : Prop where
  failed : outcome.isOk = false
  unmade : ∀ exchange ∈ log, exchange.request.creates errand.holding.collection = false
  unfound : ∀ id, ¬ errand.Finds id log

namespace Errand.Traced

variable {kind : Kind} {errand : Errand kind} {log : List (Exchange Effects)} {id : UInt32}
  {bound : Bool} {after : Resource kind} {outcome : Except Failure Action}

/-- A pass that made nothing and left on record what was there had that object in hand, or none. -/
theorem harmless (traced : errand.Traced log (.done outcome) after)
    (earlier : (errand.holding.entry errand.subject.statusOrEmpty).id = none ∨
      errand.holding.entry errand.subject.statusOrEmpty = ⟨some id, bound⟩)
    (remains : errand.holding.entry after.statusOrEmpty = ⟨some id, bound⟩)
    (unmade : ∀ exchange ∈ log, exchange.request.creates errand.holding.collection = false) :
    errand.holding.entry errand.subject.statusOrEmpty = ⟨some id, bound⟩ ∨
      bound = true ∧ errand.Finds id log ∨ errand.Fruitless log outcome := by
  obtain ⟨hand, entry, stands, kept⟩ := traced.stopped outcome rfl
  have origin : errand.Origin log (errand.hand log) := origin_hand log
  rw [stands.onRecord] at remains
  rw [stands.inHand] at origin
  cases hand with
  | known other known =>
      rcases earlier with unknown | told
      · cases unknown.symm.trans (congrArg Entry.id origin)
      · exact .inl told
  | found other =>
      obtain ⟨_, finds⟩ := origin
      cases kept.symm.trans remains
      exact .inr (.inl ⟨rfl, finds⟩)
  | made | lost =>
      obtain ⟨exchange, member, creates⟩ := origin
      cases (unmade exchange member).symm.trans creates
  | nothing =>
      refine .inr (.inr ⟨?_, unmade, fun other finds => ?_⟩)
      · cases outcome with
        | error failure => rfl
        | ok action =>
            obtain ⟨hand, entry, through, records⟩ := traced.done action rfl
            cases through.inHand.symm.trans stands.inHand
            exact records.elim
      · cases (traced.follows.hand_of_finds finds).symm.trans stands.inHand

theorem preserves (traced : errand.Traced log (.done outcome) after)
    (started : errand.start = ⟨some id, bound⟩)
    (earlier : (errand.holding.entry errand.subject.statusOrEmpty).id = none ∨
      errand.holding.entry errand.subject.statusOrEmpty = ⟨some id, bound⟩)
    (harmless : errand.holding.entry errand.subject.statusOrEmpty = ⟨some id, bound⟩ ∨
      bound = true ∧ errand.Finds id log ∨ errand.Fruitless log outcome) :
    ∀ exchange ∈ log, errand.Preserves id bound exchange.request := by
  rcases harmless with told | ⟨adopted, finds⟩ | fruitless
  · exact traced.follows.preserves_of_recorded started told
  · exact traced.follows.preserves_of_hand started
      (.inr ⟨traced.follows.hand_of_finds finds, adopted⟩)
  · have origin : errand.Origin log (errand.hand log) := origin_hand log
    cases held : errand.hand log with
    | nothing => exact traced.follows.preserves_of_hand started (.inl held)
    | known other known =>
        rw [held] at origin
        rcases earlier with unknown | told
        · cases unknown.symm.trans (congrArg Entry.id origin)
        · exact traced.follows.preserves_of_recorded started told
    | found other =>
        rw [held] at origin
        exact (fruitless.unfound other origin.2).elim
    | made | lost =>
        rw [held] at origin
        obtain ⟨exchange, member, creates⟩ := origin
        cases (fruitless.unmade exchange member).symm.trans creates

end Errand.Traced

/-- A resource has an object on record, and a pass on an earlier copy of it ended. The pass left the
resource with that object just if the resource was being deleted, or the copy told of the object, or the
object was there before and the pass found it once more, or the pass failed before it came to any object. -/
theorem stale_copies_preserve_iff {kind : Kind} {holding : Holding kind}
    {copy stored after : Resource kind} {id : UInt32} {bound : Bool} {context : Context}
    {log : List (Exchange Effects)} {outcome : Except Failure Action}
    (own : kind.holding? = some holding)
    (recorded : holding.entry stored.statusOrEmpty = ⟨some id, bound⟩)
    (earlier : (holding.entry copy.statusOrEmpty).id = none ∨
      holding.entry copy.statusOrEmpty = ⟨some id, bound⟩)
    (goes : Program.Goes (Obliges copy.metadata.spokenKey) (reconcile context kind copy).run stored log
      (.done outcome) after) :
    let errand : Errand kind := ⟨holding, copy, ⟨some id, bound⟩⟩
    (∀ exchange ∈ log, errand.Preserves id bound exchange.request) ↔
      copy.metadata.isDeleting = true ∨ holding.entry copy.statusOrEmpty = ⟨some id, bound⟩ ∨
        bound = true ∧ errand.Finds id log ∨ errand.Fruitless log outcome := by
  intro errand
  by_cases deleting : copy.metadata.isDeleting = true
  · have asks : Asks errand.Dismisses (reconcile context kind copy) :=
      Kind.reconcile_dismisses own deleting
    apply iff_of_true
    · intro exchange member
      exact (Program.Asks.exchanges asks goes exchange member).preserves earlier
    · exact .inl deleting
  · have remains : copy.metadata.isDeleting = false := eq_false_of_ne_true deleting
    have traced := Errand.traced errand own remains recorded goes
    rw [or_iff_right deleting]
    constructor
    · intro preserves
      apply traced.harmless earlier
      · exact Errand.entry_of_preserves goes recorded preserves
      · exact fun exchange member => (preserves exchange member).sticks.creates
    · exact traced.preserves rfl earlier

/-- What is stored of the host `web` after a host was made for it. -/
def Sample.recorded : ProxyHost :=
  { Sample.host "web" false [⟨"10.0.0.1", 80⟩] with
    status := some { (default : ProxyHost.Status) with id := some 7 } }

/-- A pass on a copy from before the status was written succeeds, and does not leave the host with its
remote host. -/
theorem stale_copies_preserve_iff_unrecorded :
    ∃ (log : List (Exchange Effects)) (action : Action) (after : ProxyHost),
      Program.Goes (Obliges ⟨"apps", "web"⟩)
        (reconcile Sample.context .proxyHost (Sample.host "web" false [⟨"10.0.0.1", 80⟩])).run
        Sample.recorded log (.done (.ok action)) after ∧
      ¬ ∀ exchange ∈ log, Errand.Preserves
        ⟨Adopting.proxyHosts.holding, Sample.host "web" false [⟨"10.0.0.1", 80⟩], ⟨some 7, false⟩⟩ 7 false
        exchange.request := by
  let copy := Sample.host "web" false [⟨"10.0.0.1", 80⟩]
  let pass := (reconcile Sample.context .proxyHost copy).run
  obtain ⟨log, goes⟩ := (Sample.obliging_allowed (.ok ())).goes pass Sample.recorded
  obtain ⟨action, ended⟩ : ∃ action,
      (pass.play (Sample.obliging (.ok ())) Sample.recorded).1 = .done (.ok action) :=
    Program.eq_done_ok_of_succeeds (by decide +kernel)
  rw [ended] at goes
  refine ⟨log, action, _, goes, fun preserves => ?_⟩
  have own : Kind.holding? .proxyHost = some Adopting.proxyHosts.holding := rfl
  have unknown : (Adopting.proxyHosts.holding.entry copy.statusOrEmpty).id = none := rfl
  have harmless := (stale_copies_preserve_iff own rfl (.inl unknown) goes).mp preserves
  rcases harmless with gone | told | ⟨adopted, _⟩ | fruitless
  · cases gone
  · cases told
  · cases adopted
  · cases fruitless.failed

/-- A cluster with a host that is new, and a server without remote hosts. -/
def newcomerWorld : Rehearsal.World where
  tree := .object [
    ("ProxyHost", .array [(Resource.codec .proxyHost).encode
      (Sample.host "web" false [⟨"10.0.0.1", 80⟩])]),
    ("Token", .array [(Resource.codec .token).encode Sample.token]),
    ("remote", .object [("proxy_hosts", .array [])])]
  faults := .empty
  calls := []

/-- Two passes on the host as it was at first: the second one is given a copy from before the status
was written. -/
def laggingLife : Rehearsal.Acting (Except Failure Action × Option ProxyHost × Except Failure Action) := do
  let copy := Sample.host "web" false [⟨"10.0.0.1", 80⟩]
  let first ← Rehearsal.perform (reconcile Sample.context .proxyHost copy)
  let between := Rehearsal.stored? (← get) .proxyHost ⟨"apps", "web"⟩
  let second ← Rehearsal.perform (reconcile Sample.context .proxyHost copy)
  return (first, between, second)

/-- Both passes succeed, the second makes another remote host, and the status that told of the first one is
made to tell of the other. -/
theorem stale_copies_fork :
    let (first, between, second) := (laggingLife.run newcomerWorld).1
    let world := (laggingLife.run newcomerWorld).2
    first.isOk ∧ second.isOk ∧ between.bind ProxyHost.remoteId = some 1 ∧
      (Rehearsal.stored? world .proxyHost ⟨"apps", "web"⟩).bind ProxyHost.remoteId = some 2 ∧
      (Rehearsal.reportedHosts world).toOption.map (·.map (·.id)) = some [1, 2] := by
  decide +kernel

end ProxyOperator
