import ProxyOperator.Proofs.CertificateChoice
import ProxyOperator.Proofs.Servers
/-!
How often a certificate is requested for a host over many passes. The id of one that was requested is written
nowhere before the host is; the next pass finds the certificate again among those listed, since it is listed with
the domains that it was requested for, and uses it.
-/
namespace ProxyOperator

open Attempt Reconcile

/-! ## The certificates of the server -/

def Remote.Certificate.entry (certificate : Remote.Certificate) : UInt32 × List String :=
  (certificate.id, certificate.domains)

/-- The certificates that there are, each by its id and the domains that it is listed with. -/
abbrev Catalogue := List (UInt32 × List String)

/-- Nobody else changes the certificates. They are listed as they are, and one that was requested is listed with
the domains that it was requested for. A request that failed may have been met all the same. -/
inductive Catalogued : Conduct Effects Catalogue
  | listed {catalogue : Catalogue} {session : Remote.Session} {listed : List Remote.Certificate}
      (same : ∀ entry, entry ∈ listed.map (·.entry) ↔ entry ∈ catalogue) :
      Catalogued catalogue ⟨.remote session (.list .certificates), .ok listed⟩ catalogue
  | unlisted {catalogue : Catalogue} {session : Remote.Session} (failure : Failure) :
      Catalogued catalogue ⟨.remote session (.list .certificates), .error failure⟩ catalogue
  | requested {catalogue : Catalogue} {session : Remote.Session}
      {body : Remote.Certificate.Payload} (certificate : Remote.Certificate) :
      Catalogued catalogue ⟨.remote session (.create .certificates body), .ok certificate⟩
        ((certificate.id, body.domains) :: catalogue)
  | refused {catalogue : Catalogue} {session : Remote.Session} {body : Remote.Certificate.Payload}
      (failure : Failure) :
      Catalogued catalogue ⟨.remote session (.create .certificates body), .error failure⟩ catalogue
  | unheard {catalogue : Catalogue} {session : Remote.Session} {body : Remote.Certificate.Payload}
      (id : UInt32) (failure : Failure) :
      Catalogued catalogue ⟨.remote session (.create .certificates body), .error failure⟩
        ((id, body.domains) :: catalogue)
  | elsewhere {catalogue : Catalogue} {exchange : Exchange Effects}
      (leaves : exchange.request.LeavesCertificates) : Catalogued catalogue exchange catalogue

/-- The ids of the certificates that requests were answered with. -/
def issued (log : List (Exchange Effects)) : List UInt32 := log.filterMap (·.made? .certificates)

@[simp] theorem issued_append (earlier later : List (Exchange Effects)) :
    issued (earlier ++ later) = issued earlier ++ issued later :=
  List.filterMap_append

theorem issued_cons (exchange : Exchange Effects) (log : List (Exchange Effects)) :
    issued (exchange :: log) = (exchange.made? .certificates).toList ++ issued log := by
  rw [issued, List.filterMap_cons]
  cases exchange.made? .certificates <;> rfl

theorem made?_of_leaves {exchange : Exchange Effects} (leaves : exchange.request.LeavesCertificates) :
    exchange.made? .certificates = none := by
  rw [Option.eq_none_iff_forall_ne_some]
  intro id made
  cases leaves.unrequested.symm.trans (Exchange.creates_of_made made)

theorem issued_of_leaves {log : List (Exchange Effects)}
    (leaves : ∀ exchange ∈ log, exchange.request.LeavesCertificates) : issued log = [] :=
  List.filterMap_eq_nil_iff.mpr fun exchange member => made?_of_leaves (leaves exchange member)

theorem Catalogued.leaves {before after : Catalogue} {exchange : Exchange Effects}
    (catalogued : Catalogued before exchange after)
    (leaves : exchange.request.LeavesCertificates) : after = before := by
  cases catalogued with
  | listed | unlisted | refused | elsewhere => rfl
  | requested | unheard => cases leaves.unrequested

theorem Catalogued.goes_leaves {α : Type} {program rest : Program Effects α}
    {before after : Catalogue} {log : List (Exchange Effects)}
    (goes : Program.Goes Catalogued program before log rest after)
    (leaves : ∀ exchange ∈ log, exchange.request.LeavesCertificates) : after = before := by
  induction goes with
  | here => rfl
  | ask answered _ induction =>
      rw [induction fun exchange member => leaves exchange (.tail _ member)]
      exact answered.leaves (leaves _ (.head _))

/-! ## Finding what was requested -/

namespace Remote

variable {domains : List String} {listed : List Certificate} {certificate : Certificate}

/-- If a certificate for just these domains is listed, such a one is found. -/
theorem exists_findCertificate (inside : certificate ∈ listed)
    (same : Domain.sameSet certificate.domains domains = true) :
    ∃ other ∈ listed, Domain.sameSet other.domains domains = true ∧
      findCertificate domains listed = some other := by
  have some : (listed.find? fun other => Domain.sameSet other.domains domains).isSome := by
    rw [List.find?_isSome]
    exact ⟨certificate, inside, same⟩
  obtain ⟨other, found⟩ := Option.isSome_iff_exists.mp some
  have whole := List.find?_some found
  refine ⟨other, List.mem_of_find?_eq_some found, whole, ?_⟩
  rw [findCertificate, findExactCertificate, found]
  rfl

theorem sameSet_of_findCertificate_none (unfound : findCertificate domains listed = none)
    (inside : certificate ∈ listed) : Domain.sameSet certificate.domains domains = false := by
  by_contra same
  obtain ⟨_, _, _, found⟩ := exists_findCertificate inside (Bool.not_eq_false _ |>.mp same)
  cases unfound.symm.trans found

end Remote

/-! ## What holds all along -/

section

variable {domains : List String} {catalogue last : Catalogue} {choice : CertificateChoice}
  {ids : List UInt32} {log seen : List (Exchange Effects)}

/-- No request was answered so far, or one was, and then all certificates for these domains have its id, of which
there is one. -/
def Settled (domains : List String) (ids : List UInt32) (catalogue : Catalogue) : Prop :=
  ids = [] ∨ ∃ id, ids = [id] ∧ (id, domains) ∈ catalogue ∧
    ∀ entry ∈ catalogue, Domain.sameSet entry.2 domains = true → entry.1 = id

/-- What a pass has chosen agrees with the requests that were answered and the certificates that there are. -/
structure Agreed (domains : List String) (ids : List UInt32) (choice : CertificateChoice)
    (catalogue : Catalogue) : Prop where
  settled : Settled domains ids catalogue
  lacking : choice = .lacking → ∀ entry ∈ catalogue, Domain.sameSet entry.2 domains = false
  chosen : ∀ id found, choice = .chosen id found → ∀ other ∈ ids, other = id

theorem Settled.nil_of_lacking (settled : Settled domains ids catalogue)
    (lacking : ∀ entry ∈ catalogue, Domain.sameSet entry.2 domains = false) : ids = [] := by
  rcases settled with none | ⟨id, _, inside, _⟩
  · exact none
  · have same := Domain.sameSet_self domains
    rw [lacking _ inside] at same
    cases same

/-- What is found in a listing is what was requested before, if anything was. -/
theorem Settled.found {listed : List Remote.Certificate} {certificate : Remote.Certificate}
    (settled : Settled domains ids catalogue)
    (same : ∀ entry, entry ∈ listed.map (·.entry) ↔ entry ∈ catalogue)
    (found : Remote.findCertificate domains listed = some certificate) :
    ∀ other ∈ ids, other = certificate.id := by
  rcases settled with rfl | ⟨id, rfl, inside, only⟩
  · intro other member
    cases member
  · obtain ⟨own, there, is⟩ := List.mem_map.mp ((same _).mpr inside)
    have whole : Domain.sameSet own.domains domains = true := by
      rw [show own.domains = domains from congrArg Prod.snd is, Domain.sameSet_self]
    obtain ⟨first, listed, whole, finds⟩ := Remote.exists_findCertificate there whole
    obtain rfl := Option.some.inj (found.symm.trans finds)
    intro other member
    rw [List.mem_singleton.mp member]
    exact (only certificate.entry ((same _).mp (List.mem_map_of_mem listed)) whole).symm

/-- What agrees before an exchange that befits the choice agrees after it. -/
theorem Agreed.exchange {exchange : Exchange Effects} (agreed : Agreed domains ids choice catalogue)
    (befits : choice.Befits domains exchange) (catalogued : Catalogued catalogue exchange last) :
    Agreed domains (ids ++ (exchange.made? .certificates).toList) (choice.next domains exchange)
      last := by
  cases catalogued with
  | @listed _ _ listed same =>
      obtain rfl := befits.seeks rfl
      rw [show Exchange.made? .certificates _ = none from rfl, Option.toList_none, List.append_nil,
        CertificateChoice.next_listed]
      cases found : Remote.findCertificate domains listed with
      | none =>
          rw [Option.elim_none]
          refine ⟨agreed.settled, fun _ entry inside => ?_, nofun⟩
          obtain ⟨certificate, there, rfl⟩ := List.mem_map.mp ((same entry).mpr inside)
          exact Remote.sameSet_of_findCertificate_none found there
      | some certificate =>
          rw [Option.elim_some]
          refine ⟨agreed.settled, nofun, fun _ _ chosen => ?_⟩
          cases chosen
          exact agreed.settled.found same found
  | unlisted failure =>
      obtain rfl := befits.seeks rfl
      rw [show Exchange.made? .certificates _ = none from rfl, Option.toList_none, List.append_nil]
      exact ⟨agreed.settled, nofun, nofun⟩
  | requested certificate =>
      obtain ⟨rfl, rfl⟩ := befits.requests _ _ _ rfl
      have none := agreed.lacking rfl
      rw [agreed.settled.nil_of_lacking none, CertificateChoice.next_requested]
      refine ⟨.inr ⟨certificate.id, rfl, List.mem_cons_self, fun entry inside same => ?_⟩, nofun,
        fun id found chosen other member => ?_⟩
      · rcases List.mem_cons.mp inside with rfl | older
        · rfl
        · rw [none entry older] at same
          cases same
      · cases chosen
        exact List.mem_singleton.mp member
  | refused failure | unheard id failure =>
      obtain ⟨rfl, _⟩ := befits.requests _ _ _ rfl
      rw [show Exchange.made? .certificates _ = none from rfl, Option.toList_none, List.append_nil,
        agreed.settled.nil_of_lacking (agreed.lacking rfl)]
      exact ⟨.inl rfl, nofun, nofun⟩
  | elsewhere leaves =>
      rw [made?_of_leaves leaves, Option.toList_none, List.append_nil,
        CertificateChoice.next_of_leaves leaves]
      exact agreed

/-- What agrees when a pass begins agrees as far as the pass gets. -/
theorem Agreed.goes {α : Type} {program rest : Program Effects α}
    (goes : Program.Goes Catalogued program catalogue log rest last)
    (agreed : Agreed domains ids (.after domains seen) catalogue)
    (befits : ∀ earlier exchange later, log = earlier ++ exchange :: later →
      (CertificateChoice.after domains (seen ++ earlier)).Befits domains exchange) :
    Agreed domains (ids ++ issued log) (.after domains (seen ++ log)) last := by
  induction goes generalizing ids seen with
  | here =>
      rw [issued, List.filterMap_nil, List.append_nil, List.append_nil]
      exact agreed
  | @ask request next answer state between last log rest answered further induction =>
      have first := befits [] _ _ rfl
      rw [List.append_nil] at first
      have agreed := agreed.exchange first answered
      rw [← CertificateChoice.after_append] at agreed
      have agreed := induction agreed fun earlier exchange later split => by
        have befits := befits (⟨request, answer⟩ :: earlier) exchange later
          (by rw [split, List.cons_append])
        rwa [List.append_cons] at befits
      rw [issued_cons, ← List.append_assoc, List.append_cons]
      exact agreed

end

/-! ## Runs -/

namespace ProxyHost

/-- A pass that ran on a host, what it asked and was answered, and what was left of it when it ended or was
interrupted. -/
structure Visit where
  host : ProxyHost
  log : List (Exchange Effects)
  rest : Running

/-- The host declared these domains then, and no certificate but a request for one. -/
structure Visit.Ran (domains : List String) (visit : Visit) (before after : Catalogue) : Prop where
  declares : visit.host.spec.domains = domains
  only : visit.host.spec.OnlyRequests
  goes : ∃ context, Program.Goes Catalogued (reconcile context .proxyHost visit.host).run before
    visit.log visit.rest after

/-- Passes that ran one after the other, whatever else happened to the host in between. -/
inductive Visited (domains : List String) : List Visit → Catalogue → Prop
  | none (catalogue : Catalogue) : Visited domains [] catalogue
  | pass {visits : List Visit} {visit : Visit} {before after : Catalogue}
      (earlier : Visited domains visits before) (ran : visit.Ran domains before after) :
      Visited domains (visits ++ [visit]) after

def logOf (visits : List Visit) : List (Exchange Effects) := visits.flatMap (·.log)

variable {domains : List String} {visits : List Visit} {visit : Visit} {ids : List UInt32}
  {catalogue before after : Catalogue}

theorem logOf_snoc (visits : List Visit) (visit : Visit) :
    logOf (visits ++ [visit]) = logOf visits ++ visit.log := by
  rw [logOf, List.flatMap_append, List.flatMap_singleton]
  rfl

/-- Each pass of a run ran after those before it. -/
theorem Visited.split (visited : Visited domains visits catalogue) :
    ∀ earlier visit later, visits = earlier ++ visit :: later →
      ∃ before after, Visited domains earlier before ∧ visit.Ran domains before after := by
  induction visited with
  | none =>
      intro earlier visit later split
      cases List.append_eq_nil_iff.mp split.symm |>.2
  | @pass visits last before after run ran induction =>
      intro earlier visit later split
      rcases List.eq_nil_or_concat later with rfl | ⟨later, other, rfl⟩
      · obtain ⟨rfl, same⟩ := List.append_inj' split rfl
        obtain rfl := List.singleton_inj.mp same
        exact ⟨before, after, run, ran⟩
      · rw [List.concat_eq_append, ← List.cons_append, ← List.append_assoc] at split
        exact induction earlier visit later (List.append_inj' split rfl).1

/-! ### One pass -/

/-- A pass on a deleted host has nothing to do with certificates. -/
theorem dismissal_leaves {context : Context} {host : ProxyHost}
    (deleting : host.metadata.isDeleting = true) :
    Asks Effect.LeavesCertificates (reconcile context .proxyHost host) := by
  have connects : Asks Effect.LeavesCertificates
      (connect context host.spec.token host.metadata.spokenKey.namespace) :=
    (connect_asks _ _ _).mono fun _ asked =>
      (asked.elim Effect.StandsAside.of_looks Effect.StandsAside.of_connects).leaves
  unfold reconcile ProxyHosts.reconcile
  dsimp only
  rw [if_pos deleting]
  refine dismiss_asks (fun _ => ⟨rfl, rfl⟩) ⟨rfl, rfl⟩ fun cleanup member => ?_
  obtain rfl := Adopting.eq_of_cleanup member
  refine .bind connects fun session => ?_
  exact Adopting.cleanUp_asks (fun _ _ _ => ⟨rfl, rfl⟩) (fun _ _ => ⟨rfl, rfl⟩)
    (fun _ _ => ⟨rfl, rfl⟩) fun _ _ => ⟨rfl, rfl⟩

/-- What agrees before a pass on a host that is not deleted agrees as far as it gets. -/
theorem Visit.Ran.agreed (ran : visit.Ran domains before after)
    (live : visit.host.metadata.isDeleting = false) (settled : Settled domains ids before) :
    Agreed domains (ids ++ issued visit.log) (.after domains visit.log) after := by
  obtain ⟨rfl, only, _, goes⟩ := ran
  have begins : Agreed visit.host.spec.domains ids
      (.after visit.host.spec.domains []) before := ⟨settled, nofun, nofun⟩
  exact begins.goes goes (CertificateChoice.of_goes live only goes).1

theorem Visit.Ran.settled (ran : visit.Ran domains before after)
    (settled : Settled domains ids before) : Settled domains (ids ++ issued visit.log) after := by
  cases live : visit.host.metadata.isDeleting with
  | false => exact (ran.agreed live settled).settled
  | true =>
      obtain ⟨_, _, _, goes⟩ := ran
      have leaves := (dismissal_leaves live).exchanges goes
      rw [issued_of_leaves leaves, Catalogued.goes_leaves goes leaves, List.append_nil]
      exact settled

/-! ### All passes -/

theorem Visited.settled (visited : Visited domains visits catalogue) :
    Settled domains (issued (logOf visits)) catalogue := by
  induction visited with
  | none => exact .inl rfl
  | pass _ ran induction =>
      rw [logOf_snoc, issued_append]
      exact ran.settled induction

/-- A pass on a host that is not deleted writes the host with the certificate that it has chosen by the end. -/
theorem Visit.Ran.names (ran : visit.Ran domains before after)
    (live : visit.host.metadata.isDeleting = false) :
    ∀ write ∈ hostWrites visit.log, ∃ id found,
      CertificateChoice.after domains visit.log = .chosen id found ∧
      write.body.certificateId = some id := by
  obtain ⟨rfl, only, _, goes⟩ := ran
  intro write member
  obtain ⟨exchange, heard, written⟩ := List.mem_filterMap.mp member
  obtain ⟨earlier, later, split⟩ := List.append_of_mem heard
  obtain ⟨id, found, chosen, named⟩ :=
    ((CertificateChoice.of_goes live only goes).1 earlier exchange later split).names write written
  refine ⟨id, found, ?_, named⟩
  rw [split]
  exact CertificateChoice.after_of_chosen chosen _

/-- Over all passes on a host, at most one request for a certificate is answered. Every pass that runs on the host
until it is deleted uses the certificate of that request, if it was answered by then: all that the pass writes of
the host names it, and so does the status that it writes if it succeeds. -/
theorem one_certificate_requested (visited : Visited domains visits catalogue) :
    (issued (logOf visits)).length ≤ 1 ∧
    ∀ earlier visit later, visits = earlier ++ visit :: later →
      visit.host.metadata.isDeleting = false →
      ∀ id ∈ issued (logOf earlier ++ visit.log),
        (∀ write ∈ hostWrites visit.log, write.body.certificateId = some id) ∧
        ∀ action, visit.rest = .done (.ok action) →
          ∃ found, CertificateChoice.Closes visit.host id found visit.log := by
  constructor
  · rcases visited.settled with none | ⟨id, one, _⟩
    · rw [none]
      exact Nat.zero_le 1
    · rw [one]
      rfl
  · intro earlier visit later split live id requested
    obtain ⟨before, after, visited, ran⟩ := visited.split earlier visit later split
    have agreed := ran.agreed live visited.settled
    rw [issued_append] at requested
    constructor
    · intro write member
      obtain ⟨other, found, chosen, named⟩ := ran.names live write member
      rw [named, agreed.chosen other found chosen id requested]
    · intro action succeeded
      obtain ⟨rfl, only, _, goes⟩ := ran
      obtain ⟨other, found, chosen, closes⟩ :=
        (CertificateChoice.of_goes live only goes).2 action succeeded
      rw [agreed.chosen other found chosen id requested]
      exact ⟨found, closes⟩

end ProxyHost

namespace Sample

/-- A host that leaves it to the operator to come by a certificate. -/
def secured : ProxyHost :=
  { host "web" false [⟨"10.0.0.1", 80⟩] with
    spec.ssl := some { (default : ProxyHost.Ssl) with autoRequest := true, email := some "ops@a.example" } }

/-- What a server answers that issues certificates, and may or may not make hosts. -/
def securing? (makes : Bool) (stored : ProxyHost) (catalogue : Catalogue) :
    (request : Effect) → Option request.Answer
  | .read .proxyHost key => if key = ⟨"apps", "web"⟩ then some (.ok (some stored)) else none
  | .writeStatus .proxyHost key _ _ => if key = ⟨"apps", "web"⟩ then some (.ok ()) else none
  | .list .token _ => some (.ok [token])
  | .list .proxyHost _ => some (.ok [])
  | .publish _ => some ()
  | .connect _ => some (.ok ())
  | .remote _ (.get .proxyHosts _) => some (.ok (remote none))
  | .remote _ (.update .proxyHosts _ _) => some (.ok (remote none))
  | .remote _ (.create .proxyHosts _) =>
      some (if makes then .ok (remote none) else .error default)
  | .remote _ (.list .certificates) => some <| .ok <| catalogue.map fun entry =>
      { (default : Remote.Certificate) with id := entry.1, domains := entry.2 }
  | .remote _ (.create .certificates _) => some (.ok { (default : Remote.Certificate) with id := 7 })
  | _ => none

def cataloguedAfter (catalogue : Catalogue) : Effect → Catalogue
  | .remote _ (.create .certificates body) => (7, body.domains) :: catalogue
  | _ => catalogue

theorem securing_catalogued {makes : Bool} {stored : ProxyHost} {catalogue : Catalogue}
    {request : Effect} {answer : request.Answer}
    (known : securing? makes stored catalogue request = some answer) :
    Catalogued catalogue ⟨request, answer⟩ (cataloguedAfter catalogue request) := by
  unfold securing? at known
  split at known
  case h_10 =>
    obtain rfl := Option.some.inj known
    refine .listed fun entry => ?_
    rw [List.map_map]
    exact iff_of_eq (congrArg (entry ∈ ·) (List.map_id _))
  case h_11 =>
    obtain rfl := Option.some.inj known
    exact .requested _
  case h_12 => cases known
  all_goals exact .elsewhere ⟨rfl, rfl⟩

def securing (makes : Bool) : Responder Effects Catalogue := fun catalogue request =>
  (securing? makes secured catalogue request).map (·, cataloguedAfter catalogue request)

theorem securing_allowed (makes : Bool) : Program.Allowed Catalogued (securing makes) := by
  intro catalogue request answer after answered
  obtain ⟨_, known, same⟩ := Option.map_eq_some_iff.mp answered
  obtain ⟨rfl, rfl⟩ := Prod.mk.inj same
  exact securing_catalogued known

def secure (makes : Bool) (catalogue : Catalogue) : ProxyHost.Visit where
  host := secured
  log := (reconcile context .proxyHost secured).run.heard (securing makes) catalogue
  rest := ((reconcile context .proxyHost secured).run.play (securing makes) catalogue).1

theorem secure_ran {makes : Bool} {catalogue after : Catalogue}
    (leaves : ((reconcile context .proxyHost secured).run.play (securing makes) catalogue).2 =
      after) : (secure makes catalogue).Ran ["a.example"] catalogue after where
  declares := rfl
  only := ⟨_, rfl, rfl, rfl, rfl, rfl⟩
  goes := ⟨context, leaves ▸ (securing_allowed makes).goes_heard _ catalogue⟩

end Sample

/-- A certificate is requested, and the host cannot be made. The next pass does not request another one, and makes
the host with the certificate that there is. -/
theorem one_certificate_requested_retried :
    let first := Sample.secure false []
    let second := Sample.secure true [(7, ["a.example"])]
    ∃ found, ProxyHost.Visited ["a.example"] [first, second] [(7, ["a.example"])] ∧
      issued (ProxyHost.logOf [first, second]) = [7] ∧ (hostWrites second.log).length = 1 ∧
      (∀ write ∈ hostWrites second.log, write.body.certificateId = some 7) ∧
      CertificateChoice.Closes Sample.secured 7 found second.log := by
  intro first second
  have one : ProxyHost.Visited ["a.example"] [first] [(7, ["a.example"])] :=
    .pass (.none []) (Sample.secure_ran (by decide +kernel))
  have two : ProxyHost.Visited ["a.example"] [first, second] [(7, ["a.example"])] :=
    .pass one (Sample.secure_ran (by decide +kernel))
  have requested : issued (ProxyHost.logOf [first, second]) = [7] := by decide +kernel
  have ⟨names, closes⟩ := (ProxyHost.one_certificate_requested two).2 [first] second [] rfl
    (by decide +kernel) 7 (by decide +kernel)
  obtain ⟨action, ended⟩ : ∃ action, second.rest = .done (.ok action) :=
    Program.eq_done_ok_of_succeeds (by decide +kernel)
  obtain ⟨found, closes⟩ := closes action ended
  exact ⟨found, two, requested, by decide +kernel, names, closes⟩

end ProxyOperator
