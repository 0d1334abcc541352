import Mathlib.Data.List.Induction
import ProxyOperator.Proofs.Domains
import ProxyOperator.Proofs.ErrandRules
import ProxyOperator.Proofs.Issuance
import ProxyOperator.Proofs.Playing
/-!
Runs of passes on a certificate that is to be issued, and what its status says after them. What a pass puts on
record stays there, so a pass whose status got lost is the only one whose certificate is found by a later pass and
taken for one that was there before; and a certificate that is on record stays there whatever is declared later.
-/
namespace ProxyOperator

open Reconcile

/-! ## What certificates are for -/

namespace Exchange

/-- The certificates that the server tells about. -/
def reported : Exchange Effects → List Remote.Certificate
  | ⟨.remote _ (.list .certificates), .ok listed⟩ => listed
  | ⟨.remote _ (.get .certificates _), .ok certificate⟩ => [certificate]
  | _ => []

/-- The certificate that was requested, and the domains that it was requested for. -/
def requested? : Exchange Effects → Option (UInt32 × List String)
  | ⟨.remote _ (.create .certificates body), .ok certificate⟩ => some (certificate.id, body.domains)
  | _ => none

/-- The server has certificates issued for the domains that they are requested for, and never changes
them: each has its domains by its id. -/
def KeepsTo (names : UInt32 → List String) (exchange : Exchange Effects) : Prop :=
  (∀ certificate ∈ exchange.reported,
    Domain.sameSet (names certificate.id) certificate.domains = true) ∧
  ∀ made ∈ exchange.requested?, Domain.sameSet (names made.1) made.2 = true

instance (names : UInt32 → List String) (exchange : Exchange Effects) :
    Decidable (exchange.KeepsTo names) := inferInstanceAs (Decidable (_ ∧ _))

end Exchange

namespace LetsEncryptCertificate

variable {start stored after certificate : LetsEncryptCertificate} {gain : Gain}
  {log : List (Exchange Effects)} {id : UInt32} {names : UInt32 → List String}

/-- What a pass gains is for the domains that were declared then. -/
theorem Gain.ComesFrom.sameSet {entry : Entry} {domains : List String}
    (comes : gain.ComesFrom domains log) (gained : gain.entry? = some entry)
    (known : entry.id = some id) (keeps : ∀ exchange ∈ log, exchange.KeepsTo names) :
    Domain.sameSet (names id) domains = true := by
  cases gain with
  | nothing => cases gained
  | found other =>
      rcases Option.some.inj gained with rfl
      rcases Option.some.inj known with rfl
      rcases comes with ⟨session, listed, remote, member, found, rfl⟩
      have same := List.find?_some found
      exact Domain.sameSet_trans
        ((keeps _ member).1 remote (List.mem_of_find?_eq_some found)) same
  | requested other =>
      rcases Option.some.inj gained with rfl
      rcases Option.some.inj known with rfl
      rcases comes with ⟨session, body, remote, member, rfl, rfl⟩
      exact (keeps _ member).2 _ rfl

/-! ## One pass -/

/-- A certificate with a pass on it that only begins. -/
theorem at_begin (certificate : LetsEncryptCertificate) :
    certificate.At .nothing (certificate, []) where
  issued := rfl
  comes := trivial
  fresh := fun impossible => (impossible rfl).elim
  allows := .inl rfl

theorem stopped_of_goes {context : Context} {rest : Running}
    (goes : Program.Goes (Tends stored.metadata.spokenKey)
      (reconcile context .letsEncryptCertificate stored).run stored log rest after) :
    stored.Stopped (after, log) :=
  (reconciles stored.at_begin).holds stored.Stopped (goes.logged []) stored.at_begin.stopped

theorem completed_of_goes {context : Context} {action : Action}
    (remains : stored.metadata.isDeleting = false)
    (goes : Program.Goes (Tends stored.metadata.spokenKey)
      (reconcile context .letsEncryptCertificate stored).run stored log (.done (.ok action))
      after) :
    stored.Completed (after, log) :=
  (reconciles stored.at_begin).goes (goes.logged []) remains

/-- An id on record stays there. -/
theorem At.keeps (stands : certificate.At gain (after, log))
    (known : certificate.statusOrEmpty.id = some id) :
    gain = .nothing ∧ after.entry = certificate.entry := by
  have nothing : gain = .nothing := by
    by_contra something
    cases known.symm.trans (stands.fresh something)
  subst nothing
  exact ⟨rfl, stands.allows.resolve_right nofun⟩

/-! ## Runs -/

/-- What a pass was given, what it asked and was answered, and what was stored when it ended or was
interrupted. -/
structure Visit where
  given : LetsEncryptCertificate
  log : List (Exchange Effects)
  left : LetsEncryptCertificate

/-- Passes that ran on a certificate, one after the other and each on what was stored when it began, and
edits in between. -/
inductive Visited (start : LetsEncryptCertificate) : List Visit → LetsEncryptCertificate → Prop
  | none : Visited start [] start
  | edit {visits : List Visit} {stored edited : LetsEncryptCertificate}
      (earlier : Visited start visits stored) (edit : Resource.Edited stored edited) :
      Visited start visits edited
  | pass {visits : List Visit} {stored after : LetsEncryptCertificate} {context : Context}
      {log : List (Exchange Effects)} {rest : Running} (earlier : Visited start visits stored)
      (goes : Program.Goes (Tends stored.metadata.spokenKey)
        (reconcile context .letsEncryptCertificate stored).run stored log rest after) :
      Visited start (visits ++ [⟨stored, log, after⟩]) after

/-- The last of some passes that requested the certificate of an id. -/
def lastRequester? (id : UInt32) (visits : List Visit) : Option Visit :=
  visits.reverse.find? fun visit => id ∈ issued visit.log

/-- The first of some passes that left an id on record. -/
def recorder? (visits : List Visit) : Option Visit :=
  visits.find? fun visit => visit.left.statusOrEmpty.id.isSome

variable {visits : List Visit} {visit : Visit}

theorem lastRequester?_snoc (visits : List Visit) (visit : Visit) :
    lastRequester? id (visits ++ [visit]) =
      if id ∈ issued visit.log then some visit else lastRequester? id visits := by
  rw [lastRequester?, List.reverse_append, List.reverse_singleton, List.singleton_append,
    List.find?_cons]
  split <;> simp_all [lastRequester?]

theorem mem_of_lastRequester? (requester : lastRequester? id visits = some visit) :
    visit ∈ visits :=
  List.mem_reverse.mp (List.mem_of_find?_eq_some requester)

/-- What a pass left on record is on record ever after. -/
theorem Visited.keeps (visited : Visited start visits stored) (member : visit ∈ visits)
    (known : visit.left.statusOrEmpty.id = some id) : stored.entry = visit.left.entry := by
  induction visited with
  | none => cases member
  | edit earlier edit induction =>
      rw [← induction member, entry, edit.statusOrEmpty]
      rfl
  | @pass visits stored after context log rest earlier goes induction =>
      rcases List.mem_append.mp member with older | newest
      · rcases stopped_of_goes goes with ⟨gain, stands⟩
        have same := induction older
        have recorded : stored.statusOrEmpty.id = some id :=
          (congrArg Entry.id same).trans known
        exact (stands.keeps recorded).2.trans same
      · rw [List.mem_singleton.mp newest]

/-- Where nothing is on record, no pass has left anything there. -/
theorem Visited.unrecorded (visited : Visited start visits stored) (member : visit ∈ visits)
    (missing : stored.statusOrEmpty.id = .none) : visit.left.statusOrEmpty.id = .none := by
  by_contra left
  rcases Option.ne_none_iff_exists'.mp left with ⟨known, left⟩
  have kept := visited.keeps member left
  cases ((congrArg Entry.id kept).trans left).symm.trans missing

/-- For the certificate on record, if a pass requested it: it counts as one that was there before just if
the last pass that requested it left no id on record. -/
theorem bound_iff_unrecorded (visited : Visited start visits stored)
    (recorded : stored.statusOrEmpty.id = some id)
    (requester : lastRequester? id visits = some visit) :
    stored.statusOrEmpty.bound = true ↔ visit.left.statusOrEmpty.id = none := by
  induction visited with
  | none => cases requester
  | edit earlier edit induction =>
      rw [edit.statusOrEmpty] at recorded ⊢
      exact induction recorded requester
  | @pass visits stored after context log rest earlier goes induction =>
      rcases stopped_of_goes goes with ⟨gain, stands⟩
      rw [lastRequester?_snoc, stands.issued] at requester
      rcases stands.allows with same | gained
      · have known : stored.statusOrEmpty.id = some id :=
          (congrArg Entry.id same).symm.trans recorded
        rw [(stands.keeps known).1] at requester
        have bound : after.statusOrEmpty.bound = stored.statusOrEmpty.bound :=
          congrArg Entry.bound same
        rw [bound]
        exact induction known requester
      · cases gain with
        | nothing => cases gained
        | found other =>
            have unrecorded := stands.fresh nofun
            have told : Entry.mk (some other) true = after.entry := Option.some.inj gained
            have bound : after.statusOrEmpty.bound = true := (congrArg Entry.bound told).symm
            exact iff_of_true bound
              (earlier.unrecorded (mem_of_lastRequester? requester) unrecorded)
        | requested other =>
            have told : Entry.mk (some other) false = after.entry := Option.some.inj gained
            have known : after.statusOrEmpty.id = some other := (congrArg Entry.id told).symm
            rcases Option.some.inj (known.symm.trans recorded) with rfl
            rw [Gain.ids, if_pos (List.mem_singleton_self _)] at requester
            rcases Option.some.inj requester with rfl
            have own : after.statusOrEmpty.bound = false := (congrArg Entry.bound told).symm
            rw [own]
            exact iff_of_false Bool.noConfusion fun missing => nomatch known.symm.trans missing

/-- All that passes asked and were answered. -/
def logOf (visits : List Visit) : List (Exchange Effects) := visits.flatMap (·.log)

/-- The id on record came there by the first pass that left one, and is that of a certificate for the
domains that this pass was given. -/
inductive Traces (names : UInt32 → List String) (visits : List Visit)
    (stored : LetsEncryptCertificate) : Prop
  | nothing (missing : stored.statusOrEmpty.id = none) (unleft : recorder? visits = none)
  | recorded {visit : Visit} {id : UInt32} (recorder : recorder? visits = some visit)
      (known : stored.statusOrEmpty.id = some id)
      (same : Domain.sameSet (names id) visit.given.spec.domains = true)

theorem recorder?_snoc (visits : List Visit) (visit : Visit) :
    recorder? (visits ++ [visit]) =
      (recorder? visits).or (if visit.left.statusOrEmpty.id.isSome then some visit else none) := by
  rw [recorder?, List.find?_append, List.find?_singleton]
  rfl

theorem traces_of_visited (fresh : start.status = none) (visited : Visited start visits stored)
    (keeps : ∀ exchange ∈ logOf visits, exchange.KeepsTo names) : Traces names visits stored := by
  induction visited with
  | none =>
      refine .nothing ?_ rfl
      rw [Resource.statusOrEmpty, fresh]
      rfl
  | edit earlier edit induction =>
      cases induction keeps with
      | nothing missing none => exact .nothing (edit.statusOrEmpty ▸ missing) none
      | recorded recorder known same => exact .recorded recorder (edit.statusOrEmpty ▸ known) same
  | @pass visits stored after context log rest earlier goes induction =>
      have logs : logOf (visits ++ [⟨stored, log, after⟩]) = logOf visits ++ log := by
        rw [logOf, List.flatMap_append, List.flatMap_singleton]
        rfl
      rw [logs] at keeps
      rcases stopped_of_goes goes with ⟨gain, stands⟩
      cases induction fun exchange member => keeps exchange (List.mem_append_left _ member) with
      | nothing missing unleft =>
          rcases stands.allows with same | gained
          · have still : after.statusOrEmpty.id = none := (congrArg Entry.id same).trans missing
            refine .nothing still ?_
            rw [recorder?_snoc, unleft, still]
            rfl
          · rcases Option.isSome_iff_exists.mp (Gain.isSome_of_entry gained) with ⟨id, known⟩
            have told : after.statusOrEmpty.id = some id := known
            have recorder : recorder? (visits ++ [⟨stored, log, after⟩]) = some ⟨stored, log, after⟩ := by
              rw [recorder?_snoc, unleft, told]
              rfl
            exact .recorded recorder known (stands.comes.sameSet gained known fun exchange member =>
              keeps exchange (List.mem_append_right _ member))
      | @recorded visit id recorder known same =>
          have kept := (stands.keeps known).2
          have recorder : recorder? (visits ++ [⟨stored, log, after⟩]) = some visit := by
            rw [recorder?_snoc, recorder]
            rfl
          exact .recorded recorder ((congrArg Entry.id kept).trans known) same

/-- A pass that succeeds leaves a certificate on record and says that it is issued. It is issued for the
domains that this pass was given just if the first pass that left an id on record, if there was one before,
was given the same. -/
theorem ready_covers_iff {context : Context} {action : Action} (fresh : start.status = none)
    (visited : Visited start visits stored) (remains : stored.metadata.isDeleting = false)
    (goes : Program.Goes (Tends stored.metadata.spokenKey)
      (reconcile context .letsEncryptCertificate stored).run stored log (.done (.ok action)) after)
    (keeps : ∀ exchange ∈ logOf visits ++ log, exchange.KeepsTo names) :
    ∃ id, after.statusOrEmpty.id = some id ∧
      Condition.isTrue after.statusOrEmpty.conditions Condition.ready = true ∧
      (Domain.sameSet (names id) stored.spec.domains = true ↔
        ∀ visit ∈ recorder? visits,
          Domain.sameSet visit.given.spec.domains stored.spec.domains = true) := by
  rcases completed_of_goes remains goes with ⟨gain, stands, settles, recorded, ready⟩
  rcases Option.isSome_iff_exists.mp recorded with ⟨id, known⟩
  refine ⟨id, known, ready, ?_⟩
  cases traces_of_visited fresh visited fun exchange member =>
    keeps exchange (List.mem_append_left _ member) with
  | nothing missing unleft =>
      rcases settles with ⟨_, same⟩ | gained
      · cases known.symm.trans ((congrArg Entry.id same).trans missing)
      · have covers := stands.comes.sameSet gained known fun exchange member =>
          keeps exchange (List.mem_append_right _ member)
        refine iff_of_true covers fun visit left => ?_
        cases unleft.symm.trans left
  | @recorded visit other recorder before same =>
      have kept := (stands.keeps before).2
      rcases Option.some.inj (known.symm.trans ((congrArg Entry.id kept).trans before)) with rfl
      constructor
      · intro covers first left
        rcases Option.some.inj (recorder.symm.trans left) with rfl
        exact Domain.sameSet_trans (Domain.sameSet_symm same) covers
      · exact fun alike => Domain.sameSet_trans same (alike visit recorder)

end LetsEncryptCertificate

/-! ## Runs that can be computed -/

namespace Sample

def shop (domains : List String) : LetsEncryptCertificate where
  metadata := { (default : Metadata) with
    name := some "shop", «namespace» := some "apps", finalizers := some [finalizer] }
  spec := { (default : LetsEncryptCertificate.Spec) with
    domains := domains, email := some "ops@a.example" }
  status := none

/-- What a server answers that issues certificates. -/
def certifying? (catalogue : Catalogue) : (request : Effect) → Option request.Answer
  | .list .token _ => some (.ok [token])
  | .connect _ => some (.ok ())
  | .publish _ => some ()
  | .remote _ (.list .certificates) => some <| .ok <| catalogue.map fun entry =>
      { (default : Remote.Certificate) with id := entry.1, domains := entry.2 }
  | .remote _ (.create .certificates _) => some (.ok { (default : Remote.Certificate) with id := 7 })
  | .remote _ (.get .certificates id) => some <| .ok
      { (default : Remote.Certificate) with id := id, domains := (catalogue.lookup id).getD [] }
  | _ => none

theorem certifying_catalogued {catalogue : Catalogue} {request : Effect} {answer : request.Answer}
    (known : certifying? catalogue request = some answer) :
    Catalogued catalogue ⟨request, answer⟩ (cataloguedAfter catalogue request) := by
  unfold certifying? at known
  split at known
  case h_4 =>
    rcases Option.some.inj known with rfl
    refine .listed fun entry => ?_
    rw [List.map_map]
    exact iff_of_eq (congrArg (entry ∈ ·) (List.map_id _))
  case h_5 =>
    rcases Option.some.inj known with rfl
    exact .requested _
  case h_7 => cases known
  all_goals exact .elsewhere ⟨rfl, rfl⟩

theorem certifying_faithful (catalogue : Catalogue) (request : Effect) (answer : request.Answer)
    (known : certifying? catalogue request = some answer) : Exchange.Faithful ⟨request, answer⟩ := by
  unfold certifying? at known
  split at known
  case h_6 =>
    rcases Option.some.inj known with rfl
    intro object same
    rcases Except.ok.inj same with rfl
    rfl
  case h_7 => cases known
  all_goals trivial

/-- The certificate `shop` and those of the server. The status is written, or writes fail. -/
def certifying (writes : Except Failure Unit) : Responder Effects (LetsEncryptCertificate × Catalogue) :=
  fun world request =>
    (world.1.serve ⟨"apps", "shop"⟩ writes (certifying? world.2) request).map fun served =>
      (served.1, served.2, cataloguedAfter world.2 request)

/-- Nobody else writes the status, and nobody else changes the certificates. -/
def Certified : Conduct Effects (LetsEncryptCertificate × Catalogue) := fun before exchange after =>
  Tends ⟨"apps", "shop"⟩ before.1 exchange after.1 ∧ Catalogued before.2 exchange after.2

theorem certifying_allowed (writes : Except Failure Unit) :
    Program.Allowed Certified (certifying writes) := by
  intro world request answer after answered
  rcases Option.map_eq_some_iff.mp answered with ⟨⟨given, stored⟩, served, same⟩
  rcases Prod.mk.inj same with ⟨rfl, rfl⟩
  have ⟨serves, source⟩ := Resource.serve_serves served
  refine ⟨⟨⟨stored, serves, rfl, rfl⟩, ?_⟩, ?_⟩
  · exact Resource.serve_faithful (certifying_faithful world.2) served
  · rcases source with concerns | known
    · cases request with
      | read | writeStatus => exact .elsewhere ⟨rfl, rfl⟩
      | _ => exact concerns.elim
    · exact certifying_catalogued known

/-- What is left of a pass on the certificate, and what is stored and known of certificates then. -/
def certify (writes : Except Failure Unit) (world : LetsEncryptCertificate × Catalogue) :
    Running × LetsEncryptCertificate × Catalogue :=
  (reconcile context .letsEncryptCertificate world.1).run.play (certifying writes) world

def certification (writes : Except Failure Unit) (world : LetsEncryptCertificate × Catalogue) :
    LetsEncryptCertificate.Visit where
  given := world.1
  log := (reconcile context .letsEncryptCertificate world.1).run.heard (certifying writes) world
  left := (certify writes world).2.1

theorem certify_goes (writes : Except Failure Unit)
    (world : LetsEncryptCertificate × Catalogue) :
    Program.Goes Certified (reconcile context .letsEncryptCertificate world.1).run world
      (certification writes world).log (certify writes world).1 (certify writes world).2 :=
  (certifying_allowed writes).goes_heard _ world

theorem certify_tends {writes : Except Failure Unit} {world : LetsEncryptCertificate × Catalogue}
    (called : world.1.metadata.spokenKey = ⟨"apps", "shop"⟩) :
    Program.Goes (Tends world.1.metadata.spokenKey)
      (reconcile context .letsEncryptCertificate world.1).run world.1
      (certification writes world).log (certify writes world).1 (certification writes world).left :=
  called ▸ (certify_goes writes world).view fun _ _ _ certified => certified.1

theorem certify_catalogued (writes : Except Failure Unit)
    (world : LetsEncryptCertificate × Catalogue) :
    Program.Goes Catalogued (reconcile context .letsEncryptCertificate world.1).run world.2
      (certification writes world).log (certify writes world).1 (certify writes world).2.2 :=
  (certify_goes writes world).view fun _ _ _ certified => certified.2

theorem certify_succeeds {writes : Except Failure Unit}
    {world : LetsEncryptCertificate × Catalogue}
    (called : world.1.metadata.spokenKey = ⟨"apps", "shop"⟩)
    (ended : (certify writes world).1.succeeds = true) :
    ∃ action, Program.Goes (Tends world.1.metadata.spokenKey)
      (reconcile context .letsEncryptCertificate world.1).run world.1
      (certification writes world).log (.done (.ok action)) (certification writes world).left := by
  rcases Program.eq_done_ok_of_succeeds ended with ⟨action, same⟩
  exact ⟨action, same ▸ certify_tends called⟩

/-- The certificate `shop` for one domain, and no certificates on the server. -/
def unissuedShop : LetsEncryptCertificate × Catalogue := (shop ["a.example"], [])

/-- A certificate is requested and recorded. -/
def issuedShop : LetsEncryptCertificate × Catalogue := (certify (.ok ()) unissuedShop).2

/-- A certificate is requested and cannot be recorded. -/
def lostShop : LetsEncryptCertificate × Catalogue := (certify (.error default) unissuedShop).2

end Sample

namespace LetsEncryptCertificate

/-- A certificate that was recorded by the pass that requested it is not taken for another one. -/
theorem bound_iff_unrecorded_kept :
    let kept := Sample.certification (.ok ()) Sample.unissuedShop
    Visited Sample.unissuedShop.1 [kept] kept.left ∧ kept.left.statusOrEmpty.id = some 7 ∧
      lastRequester? 7 [kept] = some kept ∧ kept.left.statusOrEmpty.bound = false := by
  intro kept
  have visited : Visited Sample.unissuedShop.1 [kept] kept.left :=
    .pass .none (Sample.certify_tends (by decide +kernel))
  have recorded : kept.left.statusOrEmpty.id = some 7 := by decide +kernel
  have requester : lastRequester? 7 [kept] = some kept :=
    List.find?_cons_of_pos (by decide +kernel)
  have iff := bound_iff_unrecorded visited recorded requester
  refine ⟨visited, recorded, requester, eq_false_of_ne_true fun bound => ?_⟩
  cases recorded.symm.trans (iff.mp bound)

/-- A certificate is requested, and the status cannot be written. Nobody else does anything, and the next pass
takes the certificate for one that was there before; when the resource is deleted, it is left alone. -/
theorem own_certificate_disowned :
    let lost := Sample.certification (.error default) Sample.unissuedShop
    let found := Sample.certification (.ok ()) Sample.lostShop
    ∃ (rest : Running) (action : Action) (catalogue : Catalogue),
      Visited Sample.unissuedShop.1 [lost, found] found.left ∧
      Program.Goes Catalogued (reconcile Sample.context .letsEncryptCertificate lost.given).run []
        lost.log rest [(7, ["a.example"])] ∧
      Program.Goes Catalogued (reconcile Sample.context .letsEncryptCertificate found.given).run
        [(7, ["a.example"])] found.log (.done (.ok action)) catalogue ∧
      lost.given.spec.domains = ["a.example"] ∧ found.given.spec.domains = ["a.example"] ∧
      issued lost.log = [7] ∧ found.left.statusOrEmpty.id = some 7 ∧
      found.left.statusOrEmpty.bound = true ∧
      LetsEncryptCertificates.cleanup Sample.context (Sample.deleting found.left) = none := by
  intro lost found
  have first : Visited Sample.unissuedShop.1 [lost] Sample.lostShop.1 :=
    .pass .none (Sample.certify_tends (by decide +kernel))
  have second : Visited Sample.unissuedShop.1 [lost, found] found.left :=
    first.pass (Sample.certify_tends (by decide +kernel))
  have catalogue : Sample.lostShop.2 = [(7, ["a.example"])] := by decide +kernel
  rcases Program.eq_done_ok_of_succeeds
    (show (Sample.certify (.ok ()) Sample.lostShop).1.succeeds = true by decide +kernel) with
    ⟨action, ended⟩
  have requests := Sample.certify_catalogued (.error default) Sample.unissuedShop
  have finds := Sample.certify_catalogued (.ok ()) Sample.lostShop
  rw [ended, catalogue] at finds
  exact ⟨_, action, _, second, catalogue ▸ requests, finds, by decide +kernel⟩

end LetsEncryptCertificate

namespace Sample

/-- The certificate `shop` once it is issued, declared for a second domain. -/
def extendedShop : LetsEncryptCertificate × Catalogue :=
  ({ issuedShop.1 with spec := (shop ["a.example", "b.example"]).spec }, issuedShop.2)

/-- What the certificates of the server are for. -/
def issuedFor (id : UInt32) : List String := if id = 7 then ["a.example"] else []

end Sample

namespace LetsEncryptCertificate

/-- A certificate that is still declared as it was is issued for what is declared. -/
theorem ready_covers_iff_unchanged :
    let kept := Sample.certification (.ok ()) Sample.unissuedShop
    let again := Sample.certification (.ok ()) Sample.issuedShop
    ∃ (action : Action) (id : UInt32), Visited Sample.unissuedShop.1 [kept] kept.left ∧
      Program.Goes (Tends kept.left.metadata.spokenKey)
        (reconcile Sample.context .letsEncryptCertificate kept.left).run kept.left again.log
        (.done (.ok action)) again.left ∧
      (∀ exchange ∈ logOf [kept] ++ again.log, exchange.KeepsTo Sample.issuedFor) ∧
      again.left.statusOrEmpty.id = some id ∧
      Domain.sameSet (Sample.issuedFor id) kept.left.spec.domains = true := by
  intro kept again
  have visited : Visited Sample.unissuedShop.1 [kept] kept.left :=
    .pass .none (Sample.certify_tends (by decide +kernel))
  have ⟨action, goes⟩ : ∃ action, Program.Goes (Tends kept.left.metadata.spokenKey)
      (reconcile Sample.context .letsEncryptCertificate kept.left).run kept.left again.log
      (.done (.ok action)) again.left :=
    Sample.certify_succeeds (by decide +kernel) (by decide +kernel)
  have keeps : ∀ exchange ∈ logOf [kept] ++ again.log, exchange.KeepsTo Sample.issuedFor := by
    decide +kernel
  have ⟨id, known, _, covers⟩ := ready_covers_iff rfl visited (by decide +kernel) goes keeps
  have recorder : recorder? [kept] = some kept := List.find?_cons_of_pos (by decide +kernel)
  refine ⟨action, id, visited, goes, keeps, known, covers.mpr fun visit left => ?_⟩
  rcases Option.some.inj (recorder.symm.trans left) with rfl
  decide +kernel

/-- A second domain is declared for a certificate that is issued. The next pass succeeds and says that the
certificate is issued, and it is the old one, for the first domain only. -/
theorem ready_without_added_domain :
    let kept := Sample.certification (.ok ()) Sample.unissuedShop
    let stored := Sample.extendedShop.1
    let stale := Sample.certification (.ok ()) Sample.extendedShop
    ∃ action : Action, Visited Sample.unissuedShop.1 [kept] stored ∧
      Program.Goes (Tends stored.metadata.spokenKey)
        (reconcile Sample.context .letsEncryptCertificate stored).run stored stale.log
        (.done (.ok action)) stale.left ∧
      (∀ exchange ∈ logOf [kept] ++ stale.log, exchange.KeepsTo Sample.issuedFor) ∧
      stale.left.statusOrEmpty.id = some 7 ∧
      Condition.isTrue stale.left.statusOrEmpty.conditions Condition.ready = true ∧
      stored.spec.domains = ["a.example", "b.example"] ∧
      Domain.sameSet (Sample.issuedFor 7) stored.spec.domains = false := by
  intro kept stored stale
  have visited : Visited Sample.unissuedShop.1 [kept] kept.left :=
    .pass .none (Sample.certify_tends (by decide +kernel))
  have edit : Resource.Edited kept.left stored := ⟨rfl, rfl⟩
  have ⟨action, goes⟩ : ∃ action, Program.Goes (Tends stored.metadata.spokenKey)
      (reconcile Sample.context .letsEncryptCertificate stored).run stored stale.log
      (.done (.ok action)) stale.left :=
    Sample.certify_succeeds (by decide +kernel) (by decide +kernel)
  exact ⟨action, visited.edit edit, goes, by decide +kernel⟩

end LetsEncryptCertificate

end ProxyOperator
