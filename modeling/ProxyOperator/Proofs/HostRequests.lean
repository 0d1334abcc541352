import ProxyOperator.Proofs.Requests
/-!
What a pass on a proxy host may do to anybody: it writes no other status than its own, and the only
remote host that it deletes is the one that its own status says was made for it.
-/
namespace ProxyOperator

open Attempt Reconcile

/-- The request is one that a pass on a host may make. -/
def Effect.Befits (host : ProxyHost) : Effect → Prop
  | .writeStatus _ key _ _ => key = host.metadata.spokenKey
  | .remote _ (.delete .proxyHosts id) =>
      host.metadata.isDeleting = true ∧ host.remoteId = some id ∧ host.isBound = false
  | _ => True

namespace Effect

def deletedHost? : Effect → Option UInt32
  | .remote _ (.delete .proxyHosts id) => some id
  | _ => none

theorem eq_delete_of_deletedHost? {effect : Effect} {id : UInt32}
    (deletes : effect.deletedHost? = some id) :
    ∃ session, effect = .remote session (.delete .proxyHosts id) := by
  unfold deletedHost? at deletes
  split at deletes
  · next session other =>
    rcases Option.some.inj deletes with rfl
    exact ⟨session, rfl⟩
  · cases deletes

variable {host : ProxyHost} {effect : Effect}

theorem Befits.of_looks (looks : effect.Looks) : effect.Befits host := by
  cases effect with
  | writeStatus | remote => exact looks.elim
  | _ => trivial

theorem Befits.of_connects (connects : effect.Connects) : effect.Befits host := by
  cases effect with
  | connect => trivial
  | _ => exact connects.elim

theorem Befits.of_consults {collection : Remote.Collection} (consults : effect.Consults collection) :
    effect.Befits host := by
  cases effect with
  | remote session request =>
      cases request with
      | list | get | create => trivial
      | _ => exact consults.elim
  | _ => exact consults.elim

/-- A request to the remote server that deletes no host befits everybody. -/
theorem Befits.of_spares {session : Remote.Session} {request : Remote.Request}
    (spared : (remote session request).deletedHost? = none) :
    (remote session request).Befits host := by
  cases request with
  | delete collection id =>
      cases collection with
      | proxyHosts => cases spared
      | _ => trivial
  | _ => trivial

end Effect

namespace Reconcile

variable {host : ProxyHost} {context : Context} {session : Remote.Session}

namespace ProxyHosts

/-! ## Passes -/

/-- Requests of this sort are enough for a pass on a host: those about its status and its finalizer, those to
the remote server, and whatever finding its session and what it refers to takes. -/
structure Permits (context : Context) (host : ProxyHost) (allowed : Effect → Prop) : Prop
    extends Upkeep allowed .proxyHost host.metadata.spokenKey where
  holds : allowed (.addFinalizer .proxyHost host.metadata.spokenKey)
  releases : allowed (.removeFinalizer .proxyHost host.metadata.spokenKey)
  others : allowed (.list .proxyHost none)
  remote : ∀ session request, (Effect.remote session request).deletedHost? = none →
    allowed (.remote session request)
  deletes : host.metadata.isDeleting = true → host.isBound = false → ∀ session id,
    host.remoteId = some id → allowed (.remote session (.delete .proxyHosts id))
  connects : Asks allowed (connect context host.spec.token host.metadata.spokenKey.namespace)
  certifies : ∀ session, Asks allowed (HostCertificate.resolve session host.spec.ssl
    host.spec.domains host.metadata.spokenKey.namespace context.settings.defaultEmail)
  guards : ∀ session, Asks allowed
    (HostAccess.resolve session host.spec.accessList host.metadata.spokenKey.namespace)
  targets : ∀ unscoped, Asks allowed (resolveTargets host unscoped)

namespace Permits

variable {allowed : Effect → Prop} (permits : Permits context host allowed)

include permits

theorem checkClaims : Asks allowed (checkClaims host) := by
  refine .bind ⟨permits.others, fun _ => trivial⟩ fun hosts => ?_
  split
  · exact .pure
  · exact .throw

theorem upgrade {certificate : HostCertificate} {accessListId : Option UInt32}
    {remote : Remote.Host} :
    Asks allowed (upgrade session host certificate accessListId remote) := by
  refine .bind (.staged (permits.targets true)) fun targets => ?_
  split
  · exact .pure
  · exact .staged ⟨permits.remote _ _ rfl, fun _ => trivial⟩

theorem converge : Asks allowed (converge context host) := by
  have upkeep := permits.toUpkeep
  have finds (session : Remote.Session) :
      Asks allowed (Adopting.proxyHosts.findRemote context session host) :=
    Adopting.findRemote_asks upkeep (permits.remote _ _ rfl) fun _ => permits.remote _ _ rfl
  have writes (session : Remote.Session) (existing : Option Remote.Host)
      (payload : Remote.Host.Payload) :
      Asks allowed (Adopting.proxyHosts.write context session host existing payload) :=
    Adopting.write_asks upkeep (fun _ => permits.remote _ _ rfl) (permits.remote _ _ rfl)
  unfold ProxyHosts.converge
  refine .bind .check fun _ => ?_
  refine .bind (.staged permits.connects) fun session => ?_
  refine .bind (.staged permits.checkClaims) fun _ => ?_
  refine .bind (finds session) fun found => ?_
  refine .bind (.staged (permits.certifies session)) fun certificate => ?_
  refine .bind (.staged (permits.guards session)) fun accessListId => ?_
  refine .bind (.staged (permits.targets _)) fun targets => ?_
  refine .bind (.staged (writes session _ _)) fun first => ?_
  have enables : ∀ remote : Remote.Host, Asks allowed (do
      unless remote.enabled do
        Stage.remote.run (session.enable .proxyHosts remote.id)
      return ⟨remote.id, found.2, remote.health.online, certificate⟩ : Staged Converged) :=
    fun remote => .doUnless (.staged ⟨permits.remote _ _ rfl, fun _ => trivial⟩) fun _ => .pure
  dsimp only
  split
  · exact .bind permits.upgrade enables
  · exact enables first

end Permits

/-- What is deleted is what the status says was made for the host. -/
theorem plan_delete {id : UInt32}
    (planned : Cleanup.plan (Adopting.proxyHosts.footingOf host).id
      (Adopting.proxyHosts.footingOf host).bound (Adopting.proxyHosts.footingOf host).initial =
        .delete id) :
    host.remoteId = some id ∧ host.isBound = false := by
  rw [← Adopting.proxyHosts_footingOf_id, ← Adopting.proxyHosts_footingOf_bound]
  generalize Adopting.proxyHosts.footingOf host = footing at planned ⊢
  rcases footing with ⟨known, bound, initial⟩
  cases known <;> cases bound <;> cases initial <;> cases planned <;> exact ⟨rfl, rfl⟩

theorem cleanup_asks {allowed : Effect → Prop}
    (connects : Asks allowed (connect context host.spec.token host.metadata.spokenKey.namespace))
    (remote : ∀ session request, (Effect.remote session request).deletedHost? = none →
      allowed (.remote session request))
    (deletes : host.isBound = false → ∀ session id, host.remoteId = some id →
      allowed (.remote session (.delete .proxyHosts id))) :
    ∀ cleanup ∈ Adopting.proxyHosts.cleanup context host, Asks allowed cleanup := by
  intro cleanup member
  obtain rfl := Adopting.eq_of_cleanup member
  refine .bind connects fun session => ?_
  apply Adopting.cleanUp_asks
  · exact fun _ _ _ => remote _ _ rfl
  · exact fun _ _ => remote _ _ rfl
  · exact fun _ _ => remote _ _ rfl
  · intro id planned
    have ⟨known, made⟩ := plan_delete planned
    exact deletes made session id known

theorem Permits.reconcile {allowed : Effect → Prop} (permits : Permits context host allowed) :
    Asks allowed (reconcile context host) := by
  have upkeep := permits.toUpkeep
  unfold ProxyHosts.reconcile
  split
  · next deleting =>
    apply Reconcile.dismiss_asks permits.tells permits.releases
    exact cleanup_asks permits.connects permits.remote (permits.deletes deleting)
  · refine .bind (hold_asks host permits.holds) fun _ => ?_
    refine .bind (begin_asks permits.reads permits.writes permits.waits) fun _ => ?_
    exact upkeep.finish permits.converge fun _ => .bind upkeep.updateStatus fun _ => .pure

/-- A pass on a host that is let go writes no status at all. -/
theorem dismiss_asks (deleting : host.metadata.isDeleting = true) :
    Asks (fun effect => effect.Quiet ∧ effect.Befits host)
      (dismiss host (Adopting.proxyHosts.cleanup context host)) := by
  apply Reconcile.dismiss_asks (fun _ => ⟨trivial, trivial⟩) ⟨trivial, trivial⟩
  apply cleanup_asks
  · refine (connect_asks _ _ _).mono fun effect asked => ?_
    rcases asked with looks | connects
    · exact ⟨.of_looks looks, .of_looks looks⟩
    · exact ⟨.of_connects connects, .of_connects connects⟩
  · exact fun _ _ spared => ⟨trivial, .of_spares spared⟩
  · exact fun made session id known => ⟨trivial, deleting, known, made⟩

theorem reconcile_asks : Asks (Effect.Befits host) (reconcile context host) := by
  apply Permits.reconcile
  constructor
  case toUpkeep => exact ⟨trivial, fun _ _ => rfl, fun _ => trivial, fun _ => trivial⟩
  case holds => trivial
  case releases => trivial
  case others => trivial
  case remote => exact fun _ _ spared => .of_spares spared
  case deletes => exact fun deleting made _ _ known => ⟨deleting, known, made⟩
  case connects => exact (connect_asks _ _ _).mono fun _ => Or.rec .of_looks .of_connects
  case certifies =>
    exact fun _ => (HostCertificate.resolve_asks _ _ _ _ _).mono
      fun _ => Or.rec .of_looks .of_consults
  case guards =>
    exact fun _ => (HostAccess.resolve_asks _ _ _).mono fun _ => Or.rec .of_looks .of_consults
  case targets => exact fun unscoped => (resolveTargets_asks host unscoped).mono fun _ => .of_looks

end ProxyHosts

end Reconcile

end ProxyOperator
