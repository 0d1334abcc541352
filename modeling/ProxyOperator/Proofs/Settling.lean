import ProxyOperator.Proofs.Bearers
import ProxyOperator.Proofs.Converging
/-!
Hosts that are settled: another pass would find all that they refer to, and send what is there already. A pass
that succeeds leaves its host settled, with the id and the certificate that it records.
-/
namespace ProxyOperator

open Attempt Reconcile

/-! ## Sessions that are set up again -/

/-- The bearer of the Token that is found for a host is still usable. -/
def Reconcile.BearerLasts (cluster : Standstill) (context : Context) (host : ProxyHost) : Prop :=
  ∀ token, under cluster (findToken context host.spec.token host.metadata.spokenKey.namespace) =
    .ok token → (token.usableBearer? context.now).isSome = true

/-- The session is the same as long as the bearer lasts. -/
theorem Reconcile.under_connect_later {cluster : Standstill} {context later : Context}
    {host : ProxyHost} {session : Remote.Session}
    (connected : under cluster (connect context host.spec.token host.metadata.spokenKey.namespace) =
      .ok session) (same : later.settings = context.settings)
    (lasts : BearerLasts cluster later host) :
    under cluster (connect later host.spec.token host.metadata.spokenKey.namespace) =
      .ok session := by
  unfold BearerLasts at lasts
  unfold connect findToken at *
  rw [same] at *
  obtain ⟨token, found, further⟩ := under_bind_eq_ok.mp connected
  obtain ⟨bearer, demanded, further⟩ := under_bind_eq_ok.mp further
  refine under_bind_eq_ok.mpr ⟨token, found, under_bind_eq_ok.mpr ⟨bearer, ?_, further⟩⟩
  obtain ⟨other, usable⟩ := Option.isSome_iff_exists.mp (lasts token found)
  cases known : token.usableBearer? context.now with
  | none =>
      rw [known] at demanded
      cases demanded
  | some given =>
      rw [known] at demanded
      obtain rfl := Except.ok.inj demanded
      have bearers := (bearer_of_usable usable).symm.trans (bearer_of_usable known)
      rw [usable, bearers]
      rfl

namespace Backdrop

variable {backdrop : Backdrop} {context : Context} {host : ProxyHost} {session : Remote.Session}
  {site : Site}

/-! ## The last parts of a pass -/

section

variable {certificate : HostCertificate} {accessListId : Option UInt32}
  {targets : ProxyHosts.Targets} {remote : Remote.Host}

theorem Delivered.certified {again : HostCertificate} {server : Remote.Server}
    (same : again.id = certificate.id)
    (delivered : backdrop.Delivered host certificate accessListId server remote) :
    backdrop.Delivered host again accessListId server remote := by
  obtain ⟨found, targets, resolved, sent⟩ := delivered
  refine ⟨found, targets, resolved, fun other member own => ?_⟩
  rw [← sent other member own]
  unfold ProxyHosts.payload
  rw [same]

theorem upgrade_yields {first : Remote.Host} (fits : backdrop.Fits host site)
    (exposed : backdrop.exposes = true)
    (resolved : under backdrop.cluster (ProxyHosts.resolveTargets host false) = .ok targets)
    (written : Written site.server first
      (ProxyHosts.payload host targets certificate accessListId false))
    (new : ∀ other ∈ site.server.hosts, other.id = first.id → other.Blank backdrop.exposes) :
    backdrop.Yields
      (fun remote after => backdrop.Fits host after ∧ Rehosted site after ∧
        backdrop.Delivered host certificate accessListId after.server remote)
      (ProxyHosts.upgrade session host certificate accessListId first) site := by
  apply Meets.bind
  apply Meets.staged
  refine yields_survey (ProxyHosts.resolveTargets_candid host true)
    ((ProxyHosts.resolveTargets_ofCluster host true).mono fun _ => .of_cluster) fun pooled known => ?_
  rw [under_facing (ProxyHosts.resolveTargets_ofCluster host true)] at known
  split
  · next unpooled =>
    have same := ProxyHosts.under_resolveTargets_unpooled known unpooled
    obtain rfl := Except.ok.inj (resolved.symm.trans same)
    exact .pure ⟨fits, .refl site, .of_unpooled exposed known unpooled written new⟩
  · apply Meets.staged
    refine yields_remote fun remote server serves => ?_
    have uniform := serves.uniform fits.uniform
    cases serves with
    | updateHost found =>
        refine ⟨⟨fits.restates, uniform⟩, ⟨.refl _, rfl, rfl⟩, ?_⟩
        exact .of_written (exposed ▸ known) (exposed ▸ .of_update found _)

end

/-! ## Settled hosts -/

/-- All that comes before a remote host is written would come to the same again. -/
structure Ready (backdrop : Backdrop) (settings : Settings) (host : ProxyHost)
    (session : Remote.Session) (certificate : HostCertificate) (accessListId : Option UInt32)
    (site : Site) : Prop where
  checked : host.spec.check = .ok ()
  apart : ∀ other ∈ backdrop.others, other.key ≠ host.key
  unclaimed : host.rival? backdrop.others = none
  connects : ∀ later : Context, later.settings = settings →
    BearerLasts backdrop.cluster later host →
    under backdrop.cluster (connect later host.spec.token host.metadata.spokenKey.namespace) =
      .ok session
  certified : under (backdrop.facing site) (HostCertificate.resolve session host.spec.ssl
    host.spec.domains host.metadata.spokenKey.namespace settings.defaultEmail) = .ok certificate
  guarded : under (backdrop.facing site) (HostAccess.resolve session host.spec.accessList
    host.metadata.spokenKey.namespace) = .ok accessListId

/-- Another pass on a host would send nothing new, and would record this id and this certificate. -/
inductive Settled (backdrop : Backdrop) (settings : Settings) (host : ProxyHost) (id : UInt32)
    (certificateId : Option UInt32) (site : Site) : Prop
  | intro {session : Remote.Session} {certificate : HostCertificate} {accessListId : Option UInt32}
      {remote : Remote.Host}
      (ready : backdrop.Ready settings host session certificate accessListId site)
      (recorded : certificate.id = certificateId)
      (delivered : backdrop.Delivered host certificate accessListId site.server remote)
      (named : remote.id = id) (enabled : remote.enabled = true)

section

variable {certificate again : HostCertificate} {accessListId : Option UInt32}
  {targets : ProxyHosts.Targets} {remote : Remote.Host} {settings : Settings}

theorem Ready.rehosted {after : Site} (rehosted : Rehosted site after)
    (ready : backdrop.Ready settings host session certificate accessListId site) :
    backdrop.Ready settings host session certificate accessListId after where
  checked := ready.checked
  apart := ready.apart
  unclaimed := ready.unclaimed
  connects := ready.connects
  certified := (rehosted.under (HostCertificate.resolve_refers _ _ _ _ _)).trans ready.certified
  guarded := (rehosted.under (HostAccess.resolve_refers _ _ _)).trans ready.guarded

/-- A host is enabled if need be, and is settled then. -/
theorem enable_yields {bound : Bool} (fits : backdrop.Fits host site)
    (ready : backdrop.Ready settings host session again accessListId site)
    (same : again.id = certificate.id)
    (delivered : backdrop.Delivered host certificate accessListId site.server remote) :
    backdrop.Yields
      (fun outcome after => backdrop.Fits host after ∧
        backdrop.Settled settings host outcome.id outcome.certificate.id after)
      (do
        unless remote.enabled do
          Stage.remote.run (session.enable .proxyHosts remote.id)
        return (⟨remote.id, bound, remote.health.online, certificate⟩ : ProxyHosts.Converged))
      site := by
  split
  · next enabled => exact .pure ⟨fits, .intro ready same (delivered.certified same) rfl enabled⟩
  · apply Meets.bind
    apply Meets.staged
    refine yields_remote fun done server serves => .pure ?_
    have uniform := serves.uniform fits.uniform
    cases serves with
    | enableHost =>
        have rehosted : Rehosted site
            { site with server := site.server.changeHost remote.id (·.switchedOn) } :=
          ⟨.refl _, rfl, rfl⟩
        exact ⟨⟨fits.restates, uniform⟩, .intro (ready.rehosted rehosted) same
          (delivered.enable.certified same) rfl rfl⟩

/-- After the host was written, what could not be sent before is sent if it turns out to be accepted. -/
theorem written_yields {existing : Option Remote.Host} {first : Remote.Host} {unscoped bound : Bool}
    (fits : backdrop.Fits host site)
    (ready : backdrop.Ready settings host session again accessListId site)
    (same : again.id = certificate.id)
    (exposing : ∀ remote ∈ existing, remote.showsUnscopedConfig = backdrop.exposes)
    (given : unscoped = existing.any (·.showsUnscopedConfig))
    (resolved : under backdrop.cluster (ProxyHosts.resolveTargets host unscoped) = .ok targets)
    (written : Written site.server first
      (ProxyHosts.payload host targets certificate accessListId unscoped))
    (new : existing = none → unscoped = false →
      ∀ other ∈ site.server.hosts, other.id = first.id → other.Blank backdrop.exposes) :
    backdrop.Yields
      (fun outcome after => backdrop.Fits host after ∧
        backdrop.Settled settings host outcome.id outcome.certificate.id after)
      (do
        let remote ←
          if !unscoped && first.showsUnscopedConfig then
            ProxyHosts.upgrade session host certificate accessListId first
          else pure first
        unless remote.enabled do
          Stage.remote.run (session.enable .proxyHosts remote.id)
        return (⟨remote.id, bound, remote.health.online, certificate⟩ : ProxyHosts.Converged))
      site := by
  have shows := fits.uniform first (Remote.Server.mem_of_host? written.found).1
  dsimp only
  split
  · next shown =>
    obtain ⟨unknown, exposed⟩ := (Bool.and_eq_true _ _).mp shown
    rw [Bool.not_eq_true'] at unknown
    rw [shows] at exposed
    have missing : existing = none := by
      cases existing with
      | none => rfl
      | some remote =>
          have contrary := (exposing remote rfl).trans exposed
          rw [given, Option.any_some, contrary] at unknown
          cases unknown
    rw [unknown] at resolved written
    apply Meets.bind
    refine (upgrade_yields fits exposed resolved written (new missing unknown)).mono ?_
      fun _ _ _ => trivial
    rintro remote last ⟨fits, rehosted, delivered⟩
    exact enable_yields fits (ready.rehosted rehosted) same delivered
  · next known =>
    have agrees : unscoped = backdrop.exposes := by
      rw [given]
      cases existing with
      | none =>
          rw [given, shows] at known
          exact (Bool.eq_false_iff.mpr known).symm
      | some remote => exact exposing remote rfl
    rw [agrees] at resolved written
    exact enable_yields fits ready same (.of_written resolved written)

theorem converge_yields (fits : backdrop.Fits host site) :
    backdrop.Yields
      (fun outcome after => backdrop.Fits host after ∧
        backdrop.Settled context.settings host outcome.id outcome.certificate.id after)
      (ProxyHosts.converge context host) site := by
  unfold ProxyHosts.converge
  apply Meets.bind
  refine check_yields fun checked => ?_
  apply Meets.bind
  apply Meets.staged
  refine yields_survey (connect_candid _ _ _) ((connect_ofCluster _ _ _).mono fun _ => .of_cluster)
    fun session connected => ?_
  rw [under_facing (connect_ofCluster _ _ _)] at connected
  apply Meets.bind
  apply Meets.staged
  refine (checkClaims_yields fits).mono ?_ fun _ _ _ => trivial
  rintro _ _ ⟨apart, unclaimed, rfl⟩
  apply Meets.bind
  refine (findRemote_yields fits).mono ?_ fun _ _ _ => trivial
  rintro ⟨existing, bound⟩ found ⟨minded, exposing⟩
  replace fits := fits.minded minded
  apply Meets.bind
  apply Meets.staged
  refine certificate_yields.mono ?_ fun _ _ _ => trivial
  rintro certificate certifying ⟨certificates, again, rfl, certified, same⟩
  replace fits : backdrop.Fits host
      { found with server := { found.server with certificates } } :=
    ⟨fits.restates, fits.uniform⟩
  apply Meets.bind
  apply Meets.staged
  refine yields_survey (HostAccess.resolve_candid _ _ _) (HostAccess.resolve_inquires _ _ _)
    fun accessListId guarded => ?_
  apply Meets.bind
  apply Meets.staged
  refine yields_survey (ProxyHosts.resolveTargets_candid host _)
    ((ProxyHosts.resolveTargets_ofCluster host _).mono fun _ => .of_cluster) fun targets resolved => ?_
  rw [under_facing (ProxyHosts.resolveTargets_ofCluster host _)] at resolved
  apply Meets.bind
  apply Meets.staged
  refine (write_yields fits).mono ?_ fun _ _ _ => trivial
  rintro first after ⟨fits, rehosted, written, new⟩
  have ready : backdrop.Ready context.settings host session again accessListId after :=
    .rehosted rehosted
      ⟨checked, apart, unclaimed, fun _ => under_connect_later connected, certified, guarded⟩
  refine written_yields fits ready same exposing rfl resolved written fun missing unknown => ?_
  rw [unknown] at new
  exact new missing rfl

/-- A host is settled, with the id that its status says, and with the certificate that it says unless it has
none. -/
structure Recorded (backdrop : Backdrop) (settings : Settings) (host : ProxyHost) (site : Site) :
    Prop where
  fits : backdrop.Fits host site
  settled : ∃ id certificateId, site.stored.statusOrEmpty.id = some id ∧
    certificateId.or site.stored.statusOrEmpty.certificateId =
      site.stored.statusOrEmpty.certificateId ∧
    backdrop.Settled settings host id certificateId site

theorem Settled.minded {after : Site} {id : UInt32} {certificateId : Option UInt32}
    (minded : Minded site after) (settled : backdrop.Settled settings host id certificateId site) :
    backdrop.Settled settings host id certificateId after := by
  obtain ⟨ready, recorded, delivered, named, enabled⟩ := settled
  exact .intro (ready.rehosted (.of_minded minded)) recorded (minded.server ▸ delivered) named enabled

theorem reconcile_yields (live : host.metadata.isDeleting = false)
    (fits : backdrop.Fits host site) :
    backdrop.Yields (fun _ after => backdrop.Recorded context.settings host after)
      (ProxyHosts.reconcile context host) site := by
  unfold ProxyHosts.reconcile
  rw [if_neg (Bool.eq_false_iff.mp live)]
  refine yields_aside (hold_asks host ⟨rfl, rfl⟩) fun _ held minded => ?_
  replace fits := fits.minded minded
  refine yields_aside (ProxyHosts.begin_asks (upkeep_minds host.metadata.spokenKey).reads
    (upkeep_minds _).writes (upkeep_minds _).waits) fun _ begun minded => ?_
  replace fits := fits.minded minded
  refine Meets.finish ((converge_yields fits).mono ?_ fun _ _ _ => trivial)
    (fun _ _ _ _ _ _ => ⟨trivial, trivial⟩) fun _ before _ _ => ?_
  · rintro outcome after ⟨fits, settled⟩
    refine .bind (yields_updateStatus.mono ?_ fun _ _ _ => trivial)
    rintro _ last ⟨minded, older, written⟩
    refine .pure ⟨fits.minded minded, outcome.id, outcome.certificate.id, ?_⟩
    rw [written]
    refine ⟨rfl, ?_, settled.minded minded⟩
    change outcome.certificate.id.or (outcome.certificate.id.or older.certificateId) = _
    rw [← Option.or_assoc, Option.or_self]
    rfl
  · exact (yields_minded (upkeep_minds host.metadata.spokenKey).updateStatus).mono
      (fun _ _ _ => trivial) fun _ _ _ => trivial

end

end Backdrop

end ProxyOperator
