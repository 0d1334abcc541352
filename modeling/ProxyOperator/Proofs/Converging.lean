import ProxyOperator.Proofs.Frames
import ProxyOperator.Proofs.PoolNames
import ProxyOperator.Proofs.Sites
/-!
What a pass on a host leaves behind if it succeeds. The remote host is enabled and has all that would be sent to
it now, and whatever it refers to is found again as it was found or made in the pass.
-/
namespace ProxyOperator

open Attempt Reconcile

/-! ## What hosts refer to -/

namespace Effect

/-- A question about what a host refers to. -/
def Refers (effect : Effect) : Prop :=
  effect.OfCluster ∨ effect.Consults .certificates ∨ effect.Consults .accessLists

end Effect

/-- Servers that differ in their hosts only look the same to whoever asks what a host refers to. -/
theorem Standstill.facing_refers {cluster : Standstill} {server other : Remote.Server}
    (certificates : other.certificates = server.certificates)
    (accessLists : other.accessLists = server.accessLists) {effect : Effect}
    (refers : effect.Refers) : cluster.facing server effect = cluster.facing other effect := by
  cases effect with
  | remote session request =>
      rcases refers with own | consults | consults
      · exact own.elim
      · cases request with
        | list | get | create =>
            obtain rfl : _ = Remote.Collection.certificates := consults
            simp only [facing, ofServer, Remote.Server.certificate?, certificates]
        | _ => exact consults.elim
      · cases request with
        | list | get | create =>
            obtain rfl : _ = Remote.Collection.accessLists := consults
            simp only [facing, ofServer, Remote.Server.accessList?, accessLists]
        | _ => exact consults.elim
  | _ => rfl

namespace HostCertificate

theorem resolve_refers (session : Remote.Session) (ssl : Option ProxyHost.Ssl)
    (domains : List String) («namespace» : String) (defaultEmail : Option String) :
    Asks Effect.Refers (resolve session ssl domains «namespace» defaultEmail) :=
  resolve_permitted session ssl domains «namespace» defaultEmail (fun _ consults => .inr (.inl consults))
    (fun _ _ _ _ => .inl nofun) fun _ _ _ _ => .inl nofun

/-- Nothing is asked for but what there is, unless a certificate may be requested. -/
theorem resolve_cases (session : Remote.Session) (ssl : Option ProxyHost.Ssl)
    (domains : List String) («namespace» : String) (defaultEmail : Option String) :
    Asks Effect.Inquires (resolve session ssl domains «namespace» defaultEmail) ∨
      ∃ email, resolve session ssl domains «namespace» defaultEmail =
        findOrRequest session domains email := by
  have confirms (id : UInt32) : Asks Effect.Inquires (confirm session id) :=
    .bind ⟨trivial, fun _ => trivial⟩ fun _ => .pure
  unfold resolve
  cases ssl with
  | none => exact .inl .pure
  | some given =>
      dsimp only
      split
      · exact .inl (.bind (ofResource_asks nofun _) fun _ => confirms _)
      · exact .inl (.bind (ofResource_asks nofun _) fun _ => confirms _)
      · exact .inl (confirms _)
      · split
        · exact .inr ⟨_, rfl⟩
        · exact .inl .pure

theorem under_findOrRequest {cluster : Standstill} {server : Remote.Server}
    {session : Remote.Session} {domains : List String} {email : Option String}
    {certificate : Remote.Certificate}
    (found : Remote.findCertificate domains server.certificates = some certificate) :
    under (cluster.facing server) (findOrRequest session domains email) =
      .ok ⟨some certificate.id, true⟩ := by
  have listed : under (cluster.facing server) (session.list .certificates) =
      .ok server.certificates := rfl
  unfold findOrRequest
  rw [under_bind, listed]
  dsimp only [Except.bind]
  rw [found]
  rfl

end HostCertificate

namespace HostAccess

theorem resolve_refers (session : Remote.Session) (reference : Option ProxyHost.AccessRef)
    («namespace» : String) : Asks Effect.Refers (resolve session reference «namespace») :=
  resolve_permitted session reference «namespace» (fun _ consults => .inr (.inr consults))
    fun _ _ _ _ => .inl nofun

theorem resolve_inquires (session : Remote.Session) (reference : Option ProxyHost.AccessRef)
    («namespace» : String) : Asks Effect.Inquires (resolve session reference «namespace») := by
  have confirms (id : UInt32) : Asks Effect.Inquires (confirm session id) :=
    .bind ⟨trivial, fun _ => trivial⟩ fun _ => .pure
  unfold resolve
  cases reference with
  | none => exact .pure
  | some given =>
      dsimp only
      split
      · exact confirms _
      · refine .bind ?_ fun _ => confirms _
        exact .bind ⟨nofun, fun _ => trivial⟩ fun _ => .bind .demand fun _ => .demand
      · exact .pure

end HostAccess

namespace Reconcile

theorem connect_ofCluster (context : Context) (reference : Option ResourceRef)
    («namespace» : String) : Asks Effect.OfCluster (connect context reference «namespace») :=
  connect_permitted context reference «namespace» (fun _ _ => nofun) (fun _ => ⟨nofun, nofun⟩)
    fun _ => trivial

theorem ProxyHosts.resolveTargets_ofCluster (host : ProxyHost) (unscoped : Bool) :
    Asks Effect.OfCluster (resolveTargets host unscoped) := by
  have permits (forward : Forward) :
      Target.Permits Effect.OfCluster host.metadata.spokenKey forward :=
    ⟨fun _ _ => trivial, fun _ => trivial, fun _ _ => trivial⟩
  exact resolveTargets_permitted host unscoped (permits _) fun _ _ => permits _

/-- Where no target is a pool, an empty text is what a server is sent in addition that accepts blocks. -/
theorem ProxyHosts.payload_unpooled {host : ProxyHost} {targets : Targets}
    {certificate : HostCertificate} {accessListId : Option UInt32}
    (unpooled : targets.upstreams.isEmpty = true) :
    payload host targets certificate accessListId true =
      { payload host targets certificate accessListId false with unscopedConfig := some "" } := by
  have empty : targets.upstreams.render = "" := by
    unfold UpstreamSet.render Dictionary.values
    rw [List.isEmpty_iff.mp unpooled]
    rfl
  unfold payload
  rw [if_pos rfl, empty]

end Reconcile

/-! ## Claims of others -/

/-- A host is no rival of its own, in whatever state it is listed. -/
theorem ProxyHost.rival?_filter (host : ProxyHost) (hosts : List ProxyHost) :
    host.rival? (hosts.filter (·.key ≠ host.key)) = host.rival? hosts := by
  unfold rival?
  rw [List.filter_filter]
  congr 1
  refine List.filter_congr fun other _ => ?_
  unfold Resource.precedes
  cases other.metadata.isDeleting <;> by_cases same : other.key = host.key <;> simp [same]

/-! ## Parts of a pass -/

namespace Backdrop

variable {backdrop : Backdrop} {context : Context} {host : ProxyHost} {session : Remote.Session}
  {site : Site}

/-- The declaration of a host is stored, and the remote hosts all show the same. -/
structure Fits (backdrop : Backdrop) (host : ProxyHost) (site : Site) : Prop where
  restates : host.Restates site.stored
  uniform : site.server.Uniform backdrop.exposes

theorem Fits.minded {after : Site} (fits : backdrop.Fits host site) (minded : Minded site after) :
    backdrop.Fits host after := by
  refine ⟨fits.restates.trans minded.restates, ?_⟩
  rw [minded.server]
  exact fits.uniform

theorem upkeep_minds (key : ObjectKey) : Upkeep (Effect.Minds key) .proxyHost key :=
  ⟨⟨rfl, rfl⟩, fun _ _ => ⟨rfl, rfl⟩, fun _ => trivial, fun _ => trivial⟩

theorem checkClaims_yields (fits : backdrop.Fits host site) :
    backdrop.Yields
      (fun _ after => (∀ other ∈ backdrop.others, other.key ≠ host.key) ∧
        host.rival? backdrop.others = none ∧ after = site)
      (ProxyHosts.checkClaims host) site := by
  apply Meets.bind
  intro listed after wavers
  refine ⟨trivial, ?_⟩
  cases listed with
  | error failure => trivial
  | ok hosts =>
      obtain ⟨others, rfl⟩ := (wavers.serves rfl).list_ok
      rw [fits.restates.key] at others
      have same : host.rival? backdrop.others = host.rival? hosts := by
        rw [← others]
        exact host.rival?_filter hosts
      unfold Program.Meets Ends
      dsimp only
      cases known : host.rival? hosts with
      | none =>
          refine .pure ⟨fun other member => ?_, same.trans known, rfl⟩
          rw [← others] at member
          exact of_decide_eq_true (List.mem_filter.mp member).2
      | some rival => exact .throw trivial

/-- A host that is found shows what all do. -/
theorem findRemote_yields (fits : backdrop.Fits host site) :
    backdrop.Yields
      (fun found after => Minded site after ∧
        ∀ remote ∈ found.1, remote.showsUnscopedConfig = backdrop.exposes)
      (Adopting.proxyHosts.findRemote context session host) site := by
  unfold Adopting.findRemote
  dsimp only
  split
  · apply Meets.bind
    apply Meets.staged
    refine yields_remote fun remote server serves => .pure ?_
    cases serves with
    | getHost found =>
        refine ⟨.refl _, fun other member => ?_⟩
        obtain rfl := Option.some.inj member
        exact fits.uniform remote (Remote.Server.mem_of_host? found).1
  · split
    · apply Meets.bind
      apply Meets.staged
      apply Meets.bind
      refine yields_remote fun hosts server serves => ?_
      cases serves with
      | listHosts =>
          dsimp only
          cases found : Remote.findHost host.spec.domains site.server.hosts with
          | none => exact .pure ⟨.refl _, fun _ member => nomatch member⟩
          | some remote =>
              refine yields_aside (Adopting.recordRemote_asks (upkeep_minds _)) fun _ after minded => ?_
              refine .pure ⟨minded, fun other member => ?_⟩
              obtain rfl := Option.some.inj member
              exact fits.uniform remote (List.mem_of_find?_eq_some found)
    · exact .pure ⟨.refl _, fun _ member => nomatch member⟩

/-- A certificate that is found or requested is the one that is found then. -/
theorem certificate_yields {ssl : Option ProxyHost.Ssl} {domains : List String}
    {«namespace» : String} {defaultEmail : Option String} :
    backdrop.Yields
      (fun certificate after => ∃ certificates again,
        after = { site with server := { site.server with certificates } } ∧
        under (backdrop.facing after)
          (HostCertificate.resolve session ssl domains «namespace» defaultEmail) = .ok again ∧
        again.id = certificate.id)
      (HostCertificate.resolve session ssl domains «namespace» defaultEmail) site := by
  rcases HostCertificate.resolve_cases session ssl domains «namespace» defaultEmail with
    asks | ⟨email, same⟩
  · exact yields_survey (HostCertificate.resolve_candid _ _ _ _ _) asks
      fun certificate known => ⟨_, certificate, rfl, known, rfl⟩
  rw [same]
  apply Meets.bind
  refine yields_remote fun listed server serves => ?_
  cases serves with
  | listCertificates =>
      dsimp only
      split
      · next certificate found =>
        exact .pure ⟨_, _, rfl, HostCertificate.under_findOrRequest found, rfl⟩
      · next unfound =>
        refine .bind (Meets.demand (fun email _ => ?_) fun _ => trivial)
        apply Meets.bind
        refine yields_remote fun certificate server serves => .pure ?_
        cases serves with
        | createCertificate place listed =>
            rw [place] at unfound
            have found := Remote.findCertificate_requested unfound listed
            exact ⟨_, _, rfl, HostCertificate.under_findOrRequest found, rfl⟩

/-- Only the hosts of the server may have changed, apart from what does not belong to the declaration. -/
structure Rehosted (before after : Site) : Prop where
  restates : before.stored.Restates after.stored
  certificates : after.server.certificates = before.server.certificates
  accessLists : after.server.accessLists = before.server.accessLists

namespace Rehosted

theorem refl (site : Site) : Rehosted site site := ⟨.refl _, rfl, rfl⟩

theorem trans {first second third : Site} (start : Rehosted first second)
    (further : Rehosted second third) : Rehosted first third where
  restates := start.restates.trans further.restates
  certificates := further.certificates.trans start.certificates
  accessLists := further.accessLists.trans start.accessLists

theorem of_minded {before after : Site} (minded : Minded before after) : Rehosted before after where
  restates := minded.restates
  certificates := congrArg _ minded.server
  accessLists := congrArg _ minded.server

theorem under {ε α : Type} {before after : Site} {attempt : Attempt ε α}
    (rehosted : Rehosted before after) (asks : Asks Effect.Refers attempt) :
    under (backdrop.facing after) attempt = under (backdrop.facing before) attempt :=
  under_congr asks fun _ refers =>
    (Standstill.facing_refers rehosted.certificates rehosted.accessLists refers).symm

end Rehosted

/-- A host has been written with a body, and is what it is found as. -/
structure Written (server : Remote.Server) (remote : Remote.Host) (body : Remote.Host.Payload) :
    Prop where
  found : server.host? remote.id = some remote
  sent : ∀ other ∈ server.hosts, other.id = remote.id → other.overwritten body = other

theorem Written.of_update {server : Remote.Server} {id : UInt32} {remote : Remote.Host}
    (found : server.host? id = some remote) (body : Remote.Host.Payload) :
    Written (server.changeHost id (·.overwritten body)) (remote.overwritten body) body := by
  obtain ⟨_, rfl⟩ := Remote.Server.mem_of_host? found
  constructor
  · rw [Remote.Host.overwritten_id,
      Remote.Server.host?_changeHost fun host => Remote.Host.overwritten_id host body, found]
    rfl
  · intro other member same
    obtain ⟨old, _, _, rfl⟩ := Remote.Server.mem_changeHost member same
    exact Remote.Host.overwritten_overwritten old body

/-- A host that was made without a configuration outside the server block has none but an empty one. -/
theorem write_yields {existing : Option Remote.Host} {body : Remote.Host.Payload}
    (fits : backdrop.Fits host site) :
    backdrop.Yields
      (fun remote after => backdrop.Fits host after ∧ Rehosted site after ∧
        Written after.server remote body ∧
        (existing = none → body.unscopedConfig = none → ∀ other ∈ after.server.hosts,
          other.id = remote.id → other.Blank backdrop.exposes))
      (Adopting.proxyHosts.write context session host existing body) site := by
  cases existing with
  | some existing =>
      refine yields_remote fun remote server serves => ?_
      have uniform := serves.uniform fits.uniform
      cases serves with
      | updateHost found =>
          exact ⟨⟨fits.restates, uniform⟩, ⟨.refl _, rfl, rfl⟩, .of_update found body, nofun⟩
  | none =>
      apply Meets.bind
      refine yields_remote fun remote server serves => ?_
      have uniform := serves.uniform fits.uniform
      cases serves with
      | createHost place fresh new =>
          obtain ⟨found, only⟩ := Remote.Server.host?_inserted place fresh
            (Remote.Host.overwritten_id _ body)
          refine yields_aside (Adopting.recordRemote_asks (upkeep_minds _)) fun _ after minded => .pure ?_
          have recorded := Rehosted.of_minded minded
          have made : Rehosted site after :=
            ⟨recorded.restates, recorded.certificates, recorded.accessLists⟩
          refine ⟨⟨fits.restates.trans made.restates, ?_⟩, made, ?_⟩
          all_goals rw [minded.server]
          · exact uniform
          · refine ⟨⟨found, fun other member own => ?_⟩, fun _ silent other member own => ?_⟩
            · rw [only other member own, Remote.Host.overwritten_overwritten]
            · rw [only other member own]
              exact new.overwritten silent

theorem under_facing {ε α : Type} {attempt : Attempt ε α} (asks : Asks Effect.OfCluster attempt) :
    under (backdrop.facing site) attempt = under backdrop.cluster attempt := by
  refine under_congr asks fun effect own => ?_
  cases effect with
  | remote => exact own.elim
  | _ => rfl

theorem check_yields {result : Except Problem Unit} {ok : Unit → Site → Prop}
    (passes : result = .ok () → ok () site) : backdrop.Yields ok (Stage.check result) site := by
  cases result with
  | ok => exact .pure (passes rfl)
  | error problem => exact .throw trivial

/-- A remote host is found by its id, and has all that would be sent to it now. -/
structure Delivered (backdrop : Backdrop) (host : ProxyHost) (certificate : HostCertificate)
    (accessListId : Option UInt32) (server : Remote.Server) (remote : Remote.Host) : Prop where
  found : server.host? remote.id = some remote
  sent : ∃ targets,
    under backdrop.cluster (ProxyHosts.resolveTargets host backdrop.exposes) = .ok targets ∧
    ∀ other ∈ server.hosts, other.id = remote.id →
      (other.overwritten (ProxyHosts.payload host targets certificate accessListId
        backdrop.exposes)).reading = other.reading

section

variable {certificate : HostCertificate} {accessListId : Option UInt32}
  {targets : ProxyHosts.Targets} {server : Remote.Server} {remote : Remote.Host}

theorem Delivered.of_written
    (resolved : under backdrop.cluster (ProxyHosts.resolveTargets host backdrop.exposes) =
      .ok targets)
    (written : Written server remote
      (ProxyHosts.payload host targets certificate accessListId backdrop.exposes)) :
    backdrop.Delivered host certificate accessListId server remote :=
  ⟨written.found, targets, resolved, fun other member same =>
    congrArg Remote.Host.reading (written.sent other member same)⟩

/-- To a host without pools an empty text would be sent in addition, which makes no difference. -/
theorem Delivered.of_unpooled (exposed : backdrop.exposes = true)
    (resolved : under backdrop.cluster (ProxyHosts.resolveTargets host true) = .ok targets)
    (unpooled : targets.upstreams.isEmpty = true)
    (written : Written server remote
      (ProxyHosts.payload host targets certificate accessListId false))
    (new : ∀ other ∈ server.hosts, other.id = remote.id → other.Blank backdrop.exposes) :
    backdrop.Delivered host certificate accessListId server remote := by
  refine ⟨written.found, targets, exposed ▸ resolved, fun other member same => ?_⟩
  rw [exposed, ProxyHosts.payload_unpooled unpooled,
    Remote.Host.reading_overwritten_empty (new other member same) exposed]
  exact congrArg Remote.Host.reading (written.sent other member same)

/-- A host that is enabled has what it had before. -/
theorem Delivered.enable (delivered : backdrop.Delivered host certificate accessListId server remote) :
    backdrop.Delivered host certificate accessListId
      (server.changeHost remote.id (·.switchedOn)) remote.switchedOn := by
  obtain ⟨found, targets, resolved, sent⟩ := delivered
  refine ⟨?_, targets, resolved, fun other member same => ?_⟩
  · rw [Remote.Host.switchedOn_id, Remote.Server.host?_changeHost Remote.Host.switchedOn_id, found]
    rfl
  · obtain ⟨old, inside, own, rfl⟩ := Remote.Server.mem_changeHost member same
    exact congrArg Remote.Host.switchedOn (sent old inside own)

end

end Backdrop

end ProxyOperator
