import ProxyOperator.Proofs.Capabilities
import ProxyOperator.Proofs.Errands
/-!
How a host comes by its certificate if its declaration names none and asks for one. What a pass has exchanged
settles which certificate it has chosen: one that is listed, or one that is requested where none of those listed
would do. All that is written of the host names the certificate that was chosen.
-/
namespace ProxyOperator

open Attempt Reconcile

/-- A request for a certificate is all that is said of where to take one from. -/
structure ProxyHost.Ssl.OnlyRequests (ssl : ProxyHost.Ssl) : Prop where
  issued : ssl.letsEncryptCertificate = none
  uploaded : ssl.customCertificate = none
  given : ssl.certificateId = none
  requests : ssl.autoRequest = true

def ProxyHost.Spec.OnlyRequests (spec : ProxyHost.Spec) : Prop := ∃ ssl ∈ spec.ssl, ssl.OnlyRequests

theorem HostCertificate.resolve_of_onlyRequests {spec : ProxyHost.Spec} (only : spec.OnlyRequests)
    (session : Remote.Session) («namespace» : String) (defaultEmail : Option String) :
    ∃ email, resolve session spec.ssl spec.domains «namespace» defaultEmail =
      findOrRequest session spec.domains email := by
  obtain ⟨ssl, declared, only⟩ := only
  refine ⟨ssl.email <|> defaultEmail, ?_⟩
  unfold resolve
  rw [Option.mem_def.mp declared]
  dsimp only
  rw [only.issued, only.uploaded, only.given]
  exact if_pos only.requests

/-! ## What was chosen -/

/-- How far a pass has come with the certificate of its host. -/
inductive CertificateChoice where
  | unsought
  /-- None of those listed would do. -/
  | lacking
  /-- There is one, and it was listed before or it was just requested. -/
  | chosen (id : UInt32) (found : Bool)
  /-- One was requested, and nobody knows whether there is one now. -/
  | lost
  deriving DecidableEq

namespace CertificateChoice

variable (domains : List String)

def next : CertificateChoice → Exchange Effects → CertificateChoice
  | .unsought, exchange =>
      (exchange.listed? .certificates).elim .unsought fun listed =>
        (Remote.findCertificate domains listed).elim .lacking fun certificate =>
          .chosen certificate.id true
  | .lacking, exchange =>
      if exchange.request.creates .certificates then
        (exchange.made? .certificates).elim .lost fun id => .chosen id false
      else .lacking
  | choice, _ => choice

/-- What a pass has chosen after some exchanges. -/
def after (log : List (Exchange Effects)) : CertificateChoice := log.foldl (next domains) .unsought

/-- An exchange befits what was chosen before: certificates are listed once, one is requested where there is
none, and hosts are written with the certificate that was chosen. -/
structure Befits (choice : CertificateChoice) (exchange : Exchange Effects) : Prop where
  seeks : exchange.request.lists .certificates = true → choice = .unsought
  requests : ∀ session body answer,
    exchange = ⟨.remote session (.create .certificates body), answer⟩ →
      choice = .lacking ∧ body.domains = domains
  names : ∀ write, exchange.hostWrite? = some write →
    ∃ id found, choice = .chosen id found ∧ write.body.certificateId = some id

variable {domains} {choice : CertificateChoice} {exchange : Exchange Effects}
  {log : List (Exchange Effects)} {id : UInt32} {found : Bool}

theorem after_append (log : List (Exchange Effects)) (exchange : Exchange Effects) :
    after domains (log ++ [exchange]) = next domains (after domains log) exchange := by
  rw [after, List.foldl_append]
  rfl

theorem next_listed {session : Remote.Session} {listed : List Remote.Certificate} :
    next domains .unsought ⟨.remote session (.list .certificates), .ok listed⟩ =
      (Remote.findCertificate domains listed).elim .lacking fun certificate =>
        .chosen certificate.id true := by
  simp only [next, Exchange.listed?, dite_true, Option.elim_some]

theorem next_requested {session : Remote.Session} {body : Remote.Certificate.Payload}
    {certificate : Remote.Certificate} :
    next domains .lacking ⟨.remote session (.create .certificates body), .ok certificate⟩ =
      .chosen certificate.id false := by
  simp only [next, Effect.creates, Exchange.made?, decide_true, if_true, Option.elim_some]
  rfl

/-- What was chosen stays chosen. -/
theorem after_of_chosen (chosen : after domains log = .chosen id found)
    (more : List (Exchange Effects)) : after domains (log ++ more) = .chosen id found := by
  induction more using List.reverseRecOn with
  | nil => rw [List.append_nil, chosen]
  | append_singleton more exchange induction =>
      rw [← List.append_assoc, after_append, induction]
      rfl

end CertificateChoice

/-! ## Requests that leave the choice alone -/

namespace Effect

/-- Certificates are neither listed nor requested with a request. -/
structure LeavesCertificates (effect : Effect) : Prop where
  unlisted : effect.lists .certificates = false
  unrequested : effect.creates .certificates = false

/-- A request with which no host is written either. -/
def StandsAside : Effect → Prop
  | .remote _ (.list collection) => collection ≠ .certificates
  | .remote _ (.create collection _) => collection ≠ .certificates ∧ collection ≠ .proxyHosts
  | .remote _ (.update collection _ _) => collection ≠ .proxyHosts
  | _ => True

namespace StandsAside

variable {effect : Effect}

theorem of_looks (looks : effect.Looks) : effect.StandsAside := by
  cases effect <;> trivial

theorem of_connects (connects : effect.Connects) : effect.StandsAside := by
  cases effect <;> trivial

theorem of_consults (consults : effect.Consults .accessLists) : effect.StandsAside := by
  cases effect with
  | remote session request =>
      cases request with
      | list => exact fun same => nomatch consults.symm.trans same
      | create =>
          constructor
          · exact fun same => nomatch consults.symm.trans same
          · exact fun same => nomatch consults.symm.trans same
      | get => trivial
      | _ => exact consults.elim
  | _ => exact consults.elim

theorem leaves (aside : effect.StandsAside) : effect.LeavesCertificates := by
  cases effect with
  | remote session request =>
      cases request with
      | list => exact ⟨decide_eq_false aside, rfl⟩
      | create => exact ⟨rfl, decide_eq_false aside.1⟩
      | _ => exact ⟨rfl, rfl⟩
  | _ => exact ⟨rfl, rfl⟩

theorem unwritten {exchange : Exchange Effects} (aside : exchange.request.StandsAside) :
    exchange.hostWrite? = none := by
  unfold Exchange.hostWrite?
  split
  · exact absurd rfl aside.2
  · exact absurd rfl aside
  · rfl

end StandsAside
end Effect

namespace CertificateChoice

variable {domains : List String} {choice : CertificateChoice} {exchange : Exchange Effects}

theorem next_of_leaves (leaves : exchange.request.LeavesCertificates) :
    choice.next domains exchange = choice := by
  cases choice with
  | unsought =>
      cases listed : exchange.listed? .certificates with
      | none =>
          rw [next, listed]
          rfl
      | some objects => cases leaves.unlisted.symm.trans (Exchange.lists_of_listed listed)
  | lacking => rw [next, leaves.unrequested, if_neg Bool.false_ne_true]
  | chosen | lost => rfl

/-- What befits any choice, if it writes hosts as that choice asks for. -/
theorem Befits.of_leaves (leaves : exchange.request.LeavesCertificates)
    (names : ∀ write, exchange.hostWrite? = some write →
      ∃ id found, choice = .chosen id found ∧ write.body.certificateId = some id) :
    choice.Befits domains exchange where
  seeks lists := by cases leaves.unlisted.symm.trans lists
  requests session body answer same := by
    subst same
    cases leaves.unrequested
  names := names

theorem Befits.of_aside (aside : exchange.request.StandsAside) : choice.Befits domains exchange :=
  .of_leaves aside.leaves fun _ written => nomatch aside.unwritten.symm.trans written

end CertificateChoice

/-! ## Passes on a host -/

namespace CertificateChoice

variable {σ : Type} {conduct : Conduct Effects σ} {host : ProxyHost} {domains : List String}
  {choice : CertificateChoice} {world : σ × List (Exchange Effects)} {id : UInt32} {found : Bool}

/-- Every exchange of a pass befits what was chosen before. -/
def Step (domains : List String) (before : σ × List (Exchange Effects)) (exchange : Exchange Effects)
    (_ : σ × List (Exchange Effects)) : Prop :=
  (after domains before.2).Befits domains exchange

def Stands (domains : List String) (choice : CertificateChoice)
    (world : σ × List (Exchange Effects)) : Prop :=
  after domains world.2 = choice

theorem Stands.logged {exchange : Exchange Effects} {later : σ × List (Exchange Effects)}
    (stands : Stands domains choice world) (answered : conduct.logged world exchange later) :
    Stands domains (choice.next domains exchange) later := by
  rw [Stands, answered.2, after_append, stands]

theorem Stands.aside {exchange : Exchange Effects} {later : σ × List (Exchange Effects)}
    (stands : Stands domains choice world) (answered : conduct.logged world exchange later)
    (aside : exchange.request.StandsAside) :
    Step domains world exchange later ∧ Stands domains choice later := by
  have stood := stands.logged answered
  rw [next_of_leaves aside.leaves] at stood
  exact ⟨.of_aside aside, stood⟩

/-- What a part of a pass does that has nothing to do with certificates. -/
theorem Stands.bind {ε α β : Type} {attempt : Attempt ε α} {next : α → Attempt ε β}
    {ok : β → σ × List (Exchange Effects) → Prop} (stands : Stands domains choice world)
    (asks : Asks Effect.StandsAside attempt)
    (further : ∀ value later, Stands domains choice later →
      Meets conduct.logged (Step domains) ok (fun _ _ => True) (next value) later) :
    Meets conduct.logged (Step domains) ok (fun _ _ => True) (attempt >>= next) world :=
  Meets.bind_asks (fun _ _ _ aside stands answered => stands.aside answered aside)
    (fun _ _ _ => trivial) asks stands further

theorem Stands.names {exchange : Exchange Effects} {write : HostWrite}
    (stands : Stands domains (.chosen id found) world) (written : exchange.hostWrite? = some write)
    (leaves : exchange.request.LeavesCertificates) (body : write.body.certificateId = some id)
    {later : σ × List (Exchange Effects)} : Step domains world exchange later := by
  refine .of_leaves leaves fun other is => ?_
  obtain rfl := Option.some.inj (written.symm.trans is)
  exact ⟨id, found, stands, body⟩

theorem upkeep_aside : Upkeep Effect.StandsAside .proxyHost host.metadata.spokenKey :=
  ⟨trivial, fun _ _ => trivial, fun _ => trivial, fun _ => trivial⟩

section

variable {context : Context} {session : Remote.Session} {certificate : HostCertificate}
  {email : Option String} {accessListId : Option UInt32} {targets : ProxyHosts.Targets}

theorem findOrRequest_meets (stands : Stands domains .unsought world) :
    Meets conduct.logged (Step domains)
      (fun certificate later => ∃ id found, certificate = ⟨some id, found⟩ ∧
        Stands domains (.chosen id found) later)
      (fun _ _ => True) (HostCertificate.findOrRequest session domains email) world := by
  have seeks {answer : Except Failure (List Remote.Certificate)}
      {later : σ × List (Exchange Effects)} :
      Step domains world ⟨.remote session (.list .certificates), answer⟩ later := by
    refine ⟨fun _ => stands, fun _ _ _ same => ?_, fun _ written => ?_⟩
    · cases same
    · cases written
  apply Meets.bind
  refine Meets.remote (fun listed later answered => ⟨seeks, ?_⟩) fun _ _ _ => ⟨seeks, trivial⟩
  have stood := stands.logged answered
  rw [CertificateChoice.next_listed] at stood
  split
  · next certificate finds =>
    rw [finds, Option.elim_some] at stood
    exact .pure ⟨certificate.id, true, rfl, stood⟩
  · next finds =>
    rw [finds, Option.elim_none] at stood
    apply Meets.bind
    refine .demand (fun email _ => ?_) fun _ => trivial
    have requests {answer : Except Failure Remote.Certificate} {last : σ × List (Exchange Effects)} :
        Step domains later
          ⟨.remote session (.create .certificates (.issue domains email)), answer⟩ last := by
      refine ⟨fun lists => ?_, fun _ _ _ same => ?_, fun _ written => ?_⟩
      · cases lists
      · cases same
        exact ⟨stood, rfl⟩
      · cases written
    apply Meets.bind
    refine Meets.remote (fun certificate last answered => ⟨requests, ?_⟩)
      fun _ _ _ => ⟨requests, trivial⟩
    have chosen := stood.logged answered
    rw [CertificateChoice.next_requested] at chosen
    exact .pure ⟨certificate.id, false, rfl, chosen⟩

/-- A body is written that names the certificate, and an object that was made for it is recorded. -/
theorem write_meets {existing : Option Remote.Host} {body : Remote.Host.Payload}
    (stands : Stands domains (.chosen id found) world) (named : body.certificateId = some id) :
    Meets conduct.logged (Step domains) (fun _ => Stands domains (.chosen id found))
      (fun _ _ => True)
      (Adopting.proxyHosts.write context session host existing body) world := by
  cases existing with
  | some remote =>
      refine Meets.remote (fun first later answered => ⟨?_, stands.logged answered⟩)
        fun failure later answered => ⟨?_, trivial⟩
      · exact stands.names rfl ⟨rfl, rfl⟩ named
      · exact stands.names rfl ⟨rfl, rfl⟩ named
  | none =>
      apply Meets.bind
      refine Meets.remote (fun first later answered => ⟨?_, ?_⟩)
        fun failure later answered => ⟨?_, trivial⟩
      · exact stands.names rfl ⟨rfl, rfl⟩ named
      · exact (stands.logged answered).bind (Adopting.recordRemote_asks upkeep_aside)
          fun _ _ stands => .pure stands
      · exact stands.names rfl ⟨rfl, rfl⟩ named

theorem upgrade_meets {remote : Remote.Host} (stands : Stands domains (.chosen id found) world)
    (named : certificate.id = some id) :
    Meets conduct.logged (Step domains) (fun _ => Stands domains (.chosen id found))
      (fun _ _ => True)
      (ProxyHosts.upgrade session host certificate accessListId remote) world := by
  refine stands.bind (.staged ((ProxyHosts.resolveTargets_asks host true).mono fun _ => .of_looks))
    fun targets later stands => ?_
  split
  · exact .pure stands
  · apply Meets.staged
    refine Meets.remote (fun first last answered => ⟨?_, stands.logged answered⟩)
      fun failure last answered => ⟨?_, trivial⟩
    · exact stands.names rfl ⟨rfl, rfl⟩ named
    · exact stands.names rfl ⟨rfl, rfl⟩ named

/-- A host is enabled if need be, and the outcome of a pass is settled. -/
theorem enable_meets {remote : Remote.Host} {outcome : ProxyHosts.Converged}
    (stands : Stands domains (.chosen id found) world)
    (chosen : outcome.certificate = ⟨some id, found⟩) :
    Meets conduct.logged (Step domains)
      (fun outcome later => ∃ id found, outcome.certificate = ⟨some id, found⟩ ∧
        Stands domains (.chosen id found) later)
      (fun _ _ => True)
      (do
        unless remote.enabled do
          Stage.remote.run (session.enable .proxyHosts remote.id)
        return outcome) world := by
  split
  · exact .pure ⟨id, found, chosen, stands⟩
  · exact stands.bind (.staged ⟨trivial, fun _ => trivial⟩) fun _ later stands =>
      .pure ⟨id, found, chosen, stands⟩

theorem converge_meets (only : host.spec.OnlyRequests)
    (stands : Stands host.spec.domains .unsought world) :
    Meets conduct.logged (Step host.spec.domains)
      (fun outcome later => ∃ id found, outcome.certificate = ⟨some id, found⟩ ∧
        Stands host.spec.domains (.chosen id found) later)
      (fun _ _ => True) (ProxyHosts.converge context host) world := by
  unfold ProxyHosts.converge
  refine stands.bind .check fun _ world stands => ?_
  refine stands.bind (.staged ((connect_asks _ _ _).mono fun _ => Or.rec .of_looks .of_connects))
    fun session world stands => ?_
  refine stands.bind (.staged ((ProxyHosts.checkClaims_asks host).mono fun _ => .of_looks))
    fun _ world stands => ?_
  refine stands.bind (Adopting.findRemote_asks upkeep_aside nofun fun _ => trivial)
    fun existing world stands => ?_
  apply Meets.bind
  apply Meets.staged
  obtain ⟨email, same⟩ := HostCertificate.resolve_of_onlyRequests only session
    host.metadata.spokenKey.namespace context.settings.defaultEmail
  rw [same]
  refine (findOrRequest_meets stands).mono ?_ fun _ _ _ => trivial
  rintro _ world ⟨id, found, rfl, stands⟩
  refine stands.bind (.staged ((HostAccess.resolve_asks _ _ _).mono
    fun _ => Or.rec .of_looks .of_consults)) fun accessListId world stands => ?_
  refine stands.bind (.staged ((ProxyHosts.resolveTargets_asks host _).mono fun _ => .of_looks))
    fun targets world stands => ?_
  apply Meets.bind
  apply Meets.staged
  refine (write_meets stands rfl).mono (fun first world stands => ?_) fun _ _ _ => trivial
  dsimp only
  split
  · apply Meets.bind
    exact (upgrade_meets stands rfl).mono (fun remote world stands => enable_meets stands rfl)
      fun _ _ _ => trivial
  · exact enable_meets stands rfl

/-- What a pass that succeeds does last: it writes a status with the certificate, unless the host is gone. -/
def Closes (host : ProxyHost) (id : UInt32) (found : Bool) (log : List (Exchange Effects)) : Prop :=
  ∃ earlier, log = earlier ++ [⟨.read .proxyHost host.metadata.spokenKey, .ok none⟩] ∨
    ∃ revision status,
      log = earlier ++ [⟨.writeStatus .proxyHost host.metadata.spokenKey revision status, .ok ()⟩] ∧
      status.certificateId = some id ∧ status.certificateBound = found

theorem close_meets {outcome : ProxyHosts.Converged}
    (stands : Stands domains (.chosen id found) world)
    (chosen : outcome.certificate = ⟨some id, found⟩) :
    Meets conduct.logged (Step domains)
      (fun _ later => Stands domains (.chosen id found) later ∧ Closes host id found later.2)
      (fun _ _ => True)
      (updateStatus context .proxyHost host.metadata.spokenKey
        (ProxyHosts.synced context host.metadata.generation outcome)) world := by
  refine Meets.updateStatus (fun _ => Stands domains (.chosen id found)) ?_ ?_ ?_ stands
  · exact fun time before later stands paused => stands.aside paused trivial
  · intro read before later stands answered
    have ⟨befits, stands⟩ := stands.aside answered trivial
    apply And.intro befits
    match read with
    | .error failure => exact ⟨trivial, stands⟩
    | .ok none => exact ⟨stands, _, .inl answered.2⟩
    | .ok (some latest) => exact stands
  · intro latest revision written before later stands wrote
    have ⟨befits, stood⟩ := stands.aside wrote trivial
    apply And.intro befits
    cases written with
    | error failure => exact ⟨trivial, stood⟩
    | ok =>
        refine ⟨stood, _, .inr ⟨_, _, wrote.2, ?_, ?_⟩⟩
        · exact congrArg HostCertificate.id chosen
        · exact congrArg HostCertificate.bound chosen

theorem reconcile_meets (live : host.metadata.isDeleting = false) (only : host.spec.OnlyRequests)
    (stands : Stands host.spec.domains .unsought world) :
    Meets conduct.logged (Step host.spec.domains)
      (fun _ later => ∃ id found, Stands host.spec.domains (.chosen id found) later ∧
        Closes host id found later.2)
      (fun _ _ => True) (ProxyHosts.reconcile context host) world := by
  have keeps : ∀ before exchange later, Effect.StandsAside exchange.request → True →
      conduct.logged before exchange later →
      Step host.spec.domains before exchange later ∧ True :=
    fun _ _ _ aside _ _ => ⟨.of_aside aside, trivial⟩
  unfold ProxyHosts.reconcile
  rw [if_neg (Bool.eq_false_iff.mp live)]
  refine stands.bind (hold_asks host trivial) fun _ world stands => ?_
  refine stands.bind (ProxyHosts.begin_asks trivial (fun _ _ => trivial) fun _ => trivial)
    fun _ world stands => ?_
  refine Meets.finish ((converge_meets only stands).mono ?_ fun _ _ _ => trivial)
    (fun _ event before later (_ : True) told =>
      keeps before ⟨.publish event, ()⟩ later trivial trivial told)
    fun _ before _ _ => .of_asks upkeep_aside.updateStatus keeps trivial
  rintro outcome world ⟨id, found, chosen, stands⟩
  apply Meets.bind
  exact (close_meets stands chosen).mono (fun _ _ ends => .pure ⟨id, found, ends⟩)
    fun _ _ _ => trivial

end

/-! ## What a pass has exchanged -/

/-- On every way of a pass on a host that is not deleted, each exchange befits what was chosen before, and if the
pass succeeds it has chosen a certificate and closes with it. -/
theorem of_goes {context : Context} {state last : σ} {log : List (Exchange Effects)} {rest : Running}
    (live : host.metadata.isDeleting = false) (only : host.spec.OnlyRequests)
    (goes : Program.Goes conduct (reconcile context .proxyHost host).run state log rest last) :
    (∀ earlier exchange later, log = earlier ++ exchange :: later →
      (after host.spec.domains earlier).Befits host.spec.domains exchange) ∧
    ∀ action, rest = .done (.ok action) →
      ∃ id found, after host.spec.domains log = .chosen id found ∧ Closes host id found log := by
  have way := goes.logged []
  have begins : Stands host.spec.domains .unsought (state, []) := rfl
  have meets : Meets conduct.logged (Step host.spec.domains)
      (fun _ later => ∃ id found, Stands host.spec.domains (.chosen id found) later ∧
        Closes host id found later.2) (fun _ _ => True)
      (reconcile context .proxyHost host) (state, []) := reconcile_meets live only begins
  refine ⟨Program.Meets.along (fun seen exchange =>
    (after host.spec.domains seen).Befits host.spec.domains exchange) way meets, ?_⟩
  rintro action rfl
  exact meets.goes way

end CertificateChoice

end ProxyOperator
