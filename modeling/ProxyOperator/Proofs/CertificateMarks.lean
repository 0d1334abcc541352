import ProxyOperator.Proofs.CertificateRequests
import ProxyOperator.Proofs.FailedPasses
/-!
What a status says of where the certificate of a host came from. A pass marks it as found if it was listed, and
what was listed may well have been requested by an earlier pass on the same host.
-/
namespace ProxyOperator

open Attempt Reconcile

/-! ## What was listed and what was requested -/

namespace CertificateChoice

variable {domains : List String} {choice : CertificateChoice} {exchange : Exchange Effects}
  {log : List (Exchange Effects)}

/-- A certificate for a host was found among those that an exchange listed. -/
def Finds (domains : List String) (certificate : Remote.Certificate) (exchange : Exchange Effects) :
    Prop :=
  ∃ session listed, exchange = ⟨.remote session (.list .certificates), .ok listed⟩ ∧
    Remote.findCertificate domains listed = some certificate

theorem Finds.lists {certificate : Remote.Certificate} (finds : Finds domains certificate exchange) :
    exchange.request.lists .certificates = true := by
  obtain ⟨_, _, rfl, _⟩ := finds
  rfl

/-- What was requested and given, if that is what was chosen. -/
def requested : CertificateChoice → List UInt32
  | .chosen id false => [id]
  | _ => []

/-- What a choice says about the exchanges that led to it. -/
structure Traced (domains : List String) (log : List (Exchange Effects))
    (choice : CertificateChoice) : Prop where
  finds : ∀ exchange ∈ log, ∀ certificate, Finds domains certificate exchange →
    choice = .chosen certificate.id true
  found : ∀ id, choice = .chosen id true →
    ∃ exchange ∈ log, ∃ certificate, Finds domains certificate exchange ∧ certificate.id = id
  issues : issued log = choice.requested

/-- Nothing was found before a choice that is not one of something found. -/
theorem Traced.finds_last {other : Exchange Effects} {certificate : Remote.Certificate}
    (traced : Traced domains log choice) (unfound : ∀ id, choice ≠ .chosen id true)
    (member : other ∈ log ++ [exchange]) (finds : Finds domains certificate other) :
    other = exchange := by
  rcases List.mem_append.mp member with earlier | last
  · exact absurd (traced.finds other earlier certificate finds) (unfound _)
  · exact List.mem_singleton.mp last

theorem Traced.leaves (traced : Traced domains log choice)
    (leaves : exchange.request.LeavesCertificates) :
    Traced domains (log ++ [exchange]) (choice.next domains exchange) := by
  rw [next_of_leaves leaves]
  refine ⟨fun other member certificate finds => ?_, fun id chosen => ?_, ?_⟩
  · rcases List.mem_append.mp member with earlier | last
    · exact traced.finds other earlier certificate finds
    · obtain rfl := List.mem_singleton.mp last
      cases leaves.unlisted.symm.trans finds.lists
  · obtain ⟨other, earlier, found⟩ := traced.found id chosen
    exact ⟨other, List.mem_append_left _ earlier, found⟩
  · rw [issued_append, traced.issues, issued_cons, made?_of_leaves leaves]
    exact List.append_nil _

theorem Traced.listed {session : Remote.Session} {answer : Except Failure (List Remote.Certificate)}
    (traced : Traced domains log .unsought) :
    Traced domains (log ++ [⟨.remote session (.list .certificates), answer⟩])
      (next domains .unsought ⟨.remote session (.list .certificates), answer⟩) := by
  have unissued : issued (log ++ [⟨.remote session (.list .certificates), answer⟩]) = [] := by
    rw [issued_append, traced.issues, issued_cons]
    rfl
  cases answer with
  | error failure =>
      refine ⟨fun other member certificate finds => ?_, nofun, unissued⟩
      obtain rfl := traced.finds_last nofun member finds
      obtain ⟨_, _, same, _⟩ := finds
      cases same
  | ok listed =>
      rw [next_listed]
      refine ⟨fun other member certificate finds => ?_, fun id chosen => ?_, ?_⟩
      · obtain rfl := traced.finds_last nofun member finds
        obtain ⟨_, _, same, found⟩ := finds
        cases same
        rw [found]
        rfl
      · cases found : Remote.findCertificate domains listed with
        | none =>
            rw [found] at chosen
            cases chosen
        | some certificate =>
            rw [found] at chosen
            cases chosen
            exact ⟨_, List.mem_append_right _ (List.mem_singleton_self _), certificate,
              ⟨session, listed, rfl, found⟩, rfl⟩
      · rw [unissued]
        cases Remote.findCertificate domains listed <;> rfl

theorem Traced.requested {session : Remote.Session} {body : Remote.Certificate.Payload}
    {answer : Except Failure Remote.Certificate} (traced : Traced domains log .lacking) :
    Traced domains (log ++ [⟨.remote session (.create .certificates body), answer⟩])
      (next domains .lacking ⟨.remote session (.create .certificates body), answer⟩) := by
  have unfound {found : CertificateChoice} :
      ∀ other ∈ log ++ [⟨.remote session (.create .certificates body), answer⟩], ∀ certificate,
        Finds domains certificate other → found = .chosen certificate.id true := by
    intro other member certificate finds
    obtain rfl := traced.finds_last nofun member finds
    obtain ⟨_, _, same, _⟩ := finds
    cases same
  cases answer with
  | error failure =>
      refine ⟨unfound, nofun, ?_⟩
      rw [issued_append, traced.issues, issued_cons]
      rfl
  | ok certificate =>
      rw [next_requested]
      refine ⟨unfound, fun id chosen => ?_, ?_⟩
      · cases chosen
      · rw [issued_append, traced.issues, issued_cons]
        rfl

end CertificateChoice

/-- A request is about certificates that are listed or requested, or it is about something else. -/
theorem Exchange.about_certificates (exchange : Exchange Effects) :
    exchange.request.LeavesCertificates ∨
    (∃ session answer, exchange = ⟨.remote session (.list .certificates), answer⟩) ∨
    ∃ session body answer, exchange = ⟨.remote session (.create .certificates body), answer⟩ := by
  obtain ⟨request, answer⟩ := exchange
  cases request with
  | remote session request =>
      cases request with
      | list collection =>
          cases collection with
          | certificates => exact .inr (.inl ⟨session, answer, rfl⟩)
          | _ => exact .inl ⟨rfl, rfl⟩
      | create collection body =>
          cases collection with
          | certificates => exact .inr (.inr ⟨session, body, answer, rfl⟩)
          | _ => exact .inl ⟨rfl, rfl⟩
      | _ => exact .inl ⟨rfl, rfl⟩
  | _ => exact .inl ⟨rfl, rfl⟩

namespace CertificateChoice

/-- The choice after exchanges that befit it is traced to them. -/
theorem traced {domains : List String} {log : List (Exchange Effects)}
    (befits : ∀ earlier exchange later, log = earlier ++ exchange :: later →
      (after domains earlier).Befits domains exchange) :
    Traced domains log (after domains log) := by
  induction log using List.reverseRecOn with
  | nil =>
      refine ⟨fun other member => ?_, fun id chosen => ?_, rfl⟩
      · cases member
      · cases chosen
  | append_singleton log exchange induction =>
      have traced : Traced domains log (after domains log) :=
        induction fun earlier other later split => befits earlier other (later ++ [exchange])
          (by rw [split, List.append_assoc, List.cons_append])
      have last := befits log exchange [] rfl
      rw [after_append]
      rcases exchange.about_certificates with leaves | ⟨_, _, rfl⟩ | ⟨_, _, _, rfl⟩
      · exact traced.leaves leaves
      · rw [last.seeks rfl] at traced ⊢
        exact traced.listed
      · rw [(last.requests _ _ _ rfl).1] at traced ⊢
        exact traced.requested

end CertificateChoice

/-! ## What is stored in the end -/

theorem Program.Goes.of_nil {interface : Interface} {σ α : Type} {conduct : Conduct interface σ}
    {program rest : Program interface α} {state after : σ}
    (goes : Goes conduct program state [] rest after) : after = state := by
  cases goes with
  | here => rfl

theorem Program.Goes.last {interface : Interface} {σ α : Type} {conduct : Conduct interface σ}
    {program rest : Program interface α} {state after : σ} {earlier : List (Exchange interface)}
    {exchange : Exchange interface}
    (goes : Goes conduct program state (earlier ++ [exchange]) rest after) :
    ∃ middle between, Goes conduct program state earlier middle between ∧
      conduct between exchange after := by
  induction earlier generalizing program state with
  | nil =>
      cases goes with
      | ask answered further =>
          obtain rfl := further.of_nil
          exact ⟨_, _, .here _ _, answered⟩
  | cons first earlier induction =>
      cases goes with
      | ask answered further =>
          obtain ⟨middle, between, goes, last⟩ := induction further
          exact ⟨middle, between, .ask answered goes, last⟩

namespace Solitary

variable {before after : Registry} {kind : Kind} {key : ObjectKey} {exchange : Exchange Effects}

theorem read_ok {found : Option (Resource kind)}
    (solitary : Solitary before ⟨.read kind key, .ok found⟩ after) : before kind key = found := by
  generalize same : (⟨.read kind key, .ok found⟩ : Exchange Effects) = exchange at solitary
  cases solitary with
  | read => cases same; rfl
  | elsewhere other => exact absurd ⟨rfl, rfl⟩ (same ▸ other kind key)
  | _ => cases same

theorem write_ok {revision : Option String} {status : kind.Status}
    (solitary : Solitary before ⟨.writeStatus kind key revision status, .ok ()⟩ after) :
    before.Written kind key status after := by
  cases solitary with
  | written _ _ written => exact written
  | elsewhere other => exact absurd ⟨rfl, rfl⟩ (other kind key)

/-- Nobody removes a resource. -/
theorem isSome (solitary : Solitary before exchange after) :
    (after kind key).isSome = (before kind key).isSome := by
  have alike {first second : Registry} (alike : first.AlikeAt second kind key) :
      (second kind key).isSome = (first kind key).isSome := by
    rw [← Option.isSome_map, alike, Option.isSome_map]
  cases solitary with
  | read same | unread _ same | refused _ _ same | elsewhere _ same => exact alike (same kind key)
  | @written _ _ own place _ _ _ written =>
      by_cases here : (⟨kind, key⟩ : Kind × ObjectKey) = ⟨own, place⟩
      · cases here
        rw [← Option.isSome_map, written.own, Option.isSome_map]
      · exact alike (written.others kind key here)

theorem goes_isSome {α : Type} {program rest : Program Effects α} {log : List (Exchange Effects)}
    (goes : Program.Goes Solitary program before log rest after) :
    (after kind key).isSome = (before kind key).isSome := by
  induction goes with
  | here => rfl
  | ask answered _ induction => exact induction.trans answered.isSome

end Solitary

namespace CertificateChoice

/-- The status that a pass closes with is the one that the host has then, as far as its certificate is
concerned. -/
theorem Closes.status {α : Type} {program rest : Program Effects α} {host : ProxyHost} {id : UInt32}
    {found : Bool} {log : List (Exchange Effects)} {registry after : Registry}
    (closes : Closes host id found log)
    (goes : Program.Goes Solitary program registry log rest after)
    (stored : (registry .proxyHost host.metadata.spokenKey).isSome) :
    ∃ status, after.status .proxyHost host.metadata.spokenKey = some status ∧
      status.certificateId = some id ∧ status.certificateBound = found := by
  obtain ⟨earlier, gone | ⟨revision, status, wrote, named, marked⟩⟩ := closes
  · subst gone
    obtain ⟨_, between, goes, last⟩ := goes.last
    rw [← Solitary.goes_isSome goes, last.read_ok] at stored
    cases stored
  · subst wrote
    obtain ⟨_, between, goes, last⟩ := goes.last
    rw [← Solitary.goes_isSome goes] at stored
    obtain ⟨older, known⟩ := Option.isSome_iff_exists.mp stored
    refine ⟨Kind.proxyHost.overlaid older.statusOrEmpty status, ?_, ?_, marked⟩
    · rw [last.write_ok.status, Registry.status, known]
      rfl
    · exact congrArg (·.or older.statusOrEmpty.certificateId) named

end CertificateChoice

/-- The status of a host does not say of a certificate that was requested that it was found. -/
def ProxyHost.Status.Truthful (status : ProxyHost.Status) (log : List (Exchange Effects)) : Prop :=
  status.certificateBound = true → ∀ id ∈ status.certificateId, id ∉ issued log

section

variable {domains : List String} {earlier seen : List (Exchange Effects)} {status : ProxyHost.Status}
  {id : UInt32} {found : Bool}

/-- A status that says what was chosen tells the truth unless what was found had been requested before. -/
theorem CertificateChoice.Traced.truthful_iff (traced : Traced domains seen (.chosen id found))
    (named : status.certificateId = some id) (marked : status.certificateBound = found) :
    status.Truthful (earlier ++ seen) ↔
      ¬∃ exchange ∈ seen, ∃ certificate, Finds domains certificate exchange ∧
        certificate.id ∈ issued earlier := by
  unfold ProxyHost.Status.Truthful
  rw [named, marked, issued_append, traced.issues]
  constructor
  · rintro truthful ⟨exchange, member, certificate, finds, requested⟩
    cases traced.finds exchange member certificate finds
    exact truthful rfl _ rfl (List.mem_append_left _ requested)
  · rintro none rfl _ ⟨⟩ requested
    obtain ⟨exchange, member, certificate, finds, rfl⟩ := traced.found id rfl
    exact none ⟨exchange, member, certificate, finds, (List.append_nil _).subst requested⟩

/-- If the domains stay what they are, it does so just if nothing was requested before. -/
theorem ProxyHost.Visited.truthful_iff {visits : List Visit} {visit : Visit}
    {before after : Catalogue} (visited : Visited domains visits before)
    (ran : visit.Ran domains before after) (live : visit.host.metadata.isDeleting = false)
    (traced : CertificateChoice.Traced domains visit.log (.chosen id found))
    (chosen : CertificateChoice.after domains visit.log = .chosen id found)
    (named : status.certificateId = some id) (marked : status.certificateBound = found) :
    status.Truthful (logOf visits ++ visit.log) ↔ issued (logOf visits) = [] := by
  have agreed := ran.agreed live visited.settled
  rw [chosen] at agreed
  constructor
  · intro truthful
    cases found with
    | true =>
        -- whatever was requested before is what was found now
        refine List.eq_nil_iff_forall_not_mem.mpr fun other requested => ?_
        obtain rfl := agreed.chosen id true rfl other (List.mem_append_left _ requested)
        refine truthful marked other named ?_
        exact issued_append .. ▸ List.mem_append_left _ requested
    | false =>
        -- one was requested now, and there is at most one
        have settled := agreed.settled
        rw [traced.issues] at settled
        rcases settled with none | ⟨other, one, _⟩
        · exact (List.append_eq_nil_iff.mp none).1
        · exact (List.append_inj' (one.trans (List.nil_append [other]).symm) rfl).1
  · intro none
    refine (traced.truthful_iff named marked).mpr ?_
    rintro ⟨_, _, _, _, requested⟩
    rw [none] at requested
    cases requested

end

/-- Nobody else writes while a pass on a host runs that asks for a certificate, and the pass succeeds, after whatever
was exchanged before. Its status names a certificate then, and tells the truth about it unless the pass found one
that was requested before. After passes with the same domains, and if nobody else changes the certificates, it
does so just until a request is answered. -/
theorem found_mark_iff {context : Context} {host : ProxyHost} {registry after : Registry}
    {seen : List (Exchange Effects)} {action : Action} (earlier : List (Exchange Effects))
    (live : host.metadata.isDeleting = false) (only : host.spec.OnlyRequests)
    (stored : registry .proxyHost host.metadata.spokenKey = some host)
    (goes : Program.Goes Solitary (reconcile context .proxyHost host).run registry seen
      (.done (.ok action)) after) :
    ∃ status, after.status .proxyHost host.metadata.spokenKey = some status ∧
      status.certificateId.isSome = true ∧
      (status.Truthful (earlier ++ seen) ↔
        ¬∃ exchange ∈ seen, ∃ certificate,
          CertificateChoice.Finds host.spec.domains certificate exchange ∧
          certificate.id ∈ issued earlier) ∧
      ∀ visits catalogue last, ProxyHost.logOf visits = earlier →
        ProxyHost.Visited host.spec.domains visits catalogue →
        Program.Goes Catalogued (reconcile context .proxyHost host).run catalogue seen
          (.done (.ok action)) last →
        (status.Truthful (earlier ++ seen) ↔ issued earlier = []) := by
  obtain ⟨befits, succeeds⟩ := CertificateChoice.of_goes live only goes
  obtain ⟨id, found, chosen, closes⟩ := succeeds action rfl
  obtain ⟨status, known, named, marked⟩ := closes.status goes (stored ▸ rfl)
  have traced := CertificateChoice.traced befits
  rw [chosen] at traced
  refine ⟨status, known, named ▸ rfl, traced.truthful_iff named marked, ?_⟩
  rintro visits catalogue last rfl visited goes
  have ran : ProxyHost.Visit.Ran host.spec.domains ⟨host, seen, .done (.ok action)⟩ catalogue last :=
    ⟨rfl, only, context, goes⟩
  exact visited.truthful_iff ran live traced chosen named marked

theorem Registry.put_put (registry : Registry) (key : ObjectKey) (older newer : ProxyHost) :
    (registry.put key older).put key newer = registry.put key newer := by
  funext kind place
  cases kind with
  | proxyHost =>
      rw [put_proxyHost, put_proxyHost, put_proxyHost]
      split <;> rfl
  | _ => rfl

namespace Sample

/-- What a host is when its status was written. -/
def securedAfter (stored : ProxyHost) : Effect → ProxyHost
  | .writeStatus .proxyHost _ _ status =>
      { stored with status := some (Kind.proxyHost.overlaid stored.statusOrEmpty status) }
  | _ => stored

/-- The host `web` is all there is. -/
def lone (host : ProxyHost) : Registry := Registry.put (fun _ _ => none) web host

theorem lone_web (host : ProxyHost) : lone host .proxyHost web = some host := by
  rw [lone, Registry.put_proxyHost, if_pos rfl]

def tending : Responder Effects (ProxyHost × Catalogue) := fun world request =>
  (securing? true world.1 world.2 request).map
    (·, securedAfter world.1 request, cataloguedAfter world.2 request)

/-- Nobody else writes, and nobody else changes the certificates. -/
def Tended : Conduct Effects (ProxyHost × Catalogue) := fun before exchange after =>
  Solitary (lone before.1) exchange (lone after.1) ∧ Catalogued before.2 exchange after.2

theorem securing_solitary {makes : Bool} {stored : ProxyHost} {catalogue : Catalogue}
    {request : Effect} {answer : request.Answer}
    (known : securing? makes stored catalogue request = some answer) :
    Solitary (lone stored) ⟨request, answer⟩ (lone (securedAfter stored request)) := by
  have alike (registry : Registry) : registry.Alike registry := fun _ _ => rfl
  unfold securing? at known
  split at known
  · split at known
    · next same =>
      obtain rfl := Option.some.inj known
      obtain rfl := same
      exact lone_web stored ▸ .read (alike _)
    · cases known
  · split at known
    · next status same =>
      obtain rfl := same
      have written := Registry.written_put (lone_web stored) status
      rw [lone, Registry.put_put] at written
      exact .written _ _ written
    · cases known
  case h_12 => cases known
  all_goals exact .elsewhere (fun _ _ => not_false) (alike _)

theorem tending_allowed : Program.Allowed Tended tending := by
  intro world request answer after answered
  obtain ⟨_, known, same⟩ := Option.map_eq_some_iff.mp answered
  obtain ⟨rfl, rfl⟩ := Prod.mk.inj same
  exact ⟨securing_solitary known, securing_catalogued known⟩

/-- What is left of a pass on the host, and what is stored and known of certificates then. -/
def attend (world : ProxyHost × Catalogue) : Running × ProxyHost × Catalogue :=
  (reconcile context .proxyHost world.1).run.play tending world

def attendLog (world : ProxyHost × Catalogue) : List (Exchange Effects) :=
  (reconcile context .proxyHost world.1).run.heard tending world

theorem attend_goes {world : ProxyHost × Catalogue} (succeeds : (attend world).1.succeeds = true) :
    ∃ action, Program.Goes Tended (reconcile context .proxyHost world.1).run world (attendLog world)
      (.done (.ok action)) (attend world).2 := by
  obtain ⟨action, ended⟩ := Program.eq_done_ok_of_succeeds succeeds
  exact ⟨action, ended ▸ tending_allowed.goes_heard _ world⟩

theorem Tended.solitary {world after : ProxyHost × Catalogue} {program rest : Running}
    {log : List (Exchange Effects)} (goes : Program.Goes Tended program world log rest after) :
    Program.Goes Solitary program (lone world.1) log rest (lone after.1) :=
  goes.view fun _ _ _ tended => tended.1

theorem Tended.catalogued {world after : ProxyHost × Catalogue} {program rest : Running}
    {log : List (Exchange Effects)} (goes : Program.Goes Tended program world log rest after) :
    Program.Goes Catalogued program world.2 log rest after.2 :=
  goes.view fun _ _ _ tended => tended.2

end Sample

/-- A certificate was there before, and the status says so. -/
theorem found_mark_iff_older :
    let world : ProxyHost × Catalogue := (Sample.secured, [(5, ["a.example"])])
    let after := (Sample.attend world).2.1
    ∃ action, Program.Goes Solitary (reconcile Sample.context .proxyHost Sample.secured).run
        (Sample.lone Sample.secured) (Sample.attendLog world) (.done (.ok action))
        (Sample.lone after) ∧
      after.statusOrEmpty.certificateId = some 5 ∧ after.statusOrEmpty.certificateBound = true ∧
      5 ∉ issued ([] ++ Sample.attendLog world) := by
  intro world after
  have succeeds : (Sample.attend world).1.succeeds = true := by decide +kernel
  obtain ⟨action, goes⟩ := Sample.attend_goes succeeds
  have solitary := Sample.Tended.solitary goes
  have stored : Sample.lone Sample.secured .proxyHost Sample.secured.metadata.spokenKey =
      some Sample.secured := Sample.lone_web _
  obtain ⟨status, known, _, _, just⟩ :=
    found_mark_iff [] (by decide +kernel) ⟨_, rfl, rfl, rfl, rfl, rfl⟩ stored solitary
  have own : (Sample.lone after).status .proxyHost Sample.web = some after.statusOrEmpty := by
    rw [Registry.status, Sample.lone_web]
    rfl
  obtain rfl := Option.some.inj (known.symm.trans own)
  obtain ⟨five, marked⟩ : after.statusOrEmpty.certificateId = some 5 ∧
      after.statusOrEmpty.certificateBound = true := by decide +kernel
  have truthful := (just [] _ _ rfl (.none _) (Sample.Tended.catalogued goes)).mpr rfl
  exact ⟨action, solitary, five, marked, truthful marked 5 five⟩

/-- A certificate is requested for a new host, and the next pass marks it as found. -/
theorem found_mark_misleads :
    ∃ (first second : List (Exchange Effects)) (between after : ProxyHost × Catalogue)
      (one two : Action),
      Sample.secured.status = none ∧ Sample.secured.spec.OnlyRequests ∧
      Program.Goes Sample.Tended (reconcile Sample.context .proxyHost Sample.secured).run
        (Sample.secured, []) first (.done (.ok one)) between ∧
      Program.Goes Sample.Tended (reconcile Sample.context .proxyHost between.1).run between second
        (.done (.ok two)) after ∧
      7 ∈ issued first ∧ after.1.statusOrEmpty.certificateId = some 7 ∧
      after.1.statusOrEmpty.certificateBound = true := by
  let begin : ProxyHost × Catalogue := (Sample.secured, [])
  let between := (Sample.attend begin).2
  have one : (Sample.attend begin).1.succeeds = true := by decide +kernel
  have two : (Sample.attend between).1.succeeds = true := by decide +kernel
  obtain ⟨_, first⟩ := Sample.attend_goes one
  obtain ⟨_, second⟩ := Sample.attend_goes two
  exact ⟨_, _, _, _, _, _, rfl, ⟨_, rfl, rfl, rfl, rfl, rfl⟩, first, second, by decide +kernel⟩

end ProxyOperator
