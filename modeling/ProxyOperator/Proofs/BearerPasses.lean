import ProxyOperator.Proofs.Bearers
/-!
Passes of all kinds present and record bearer tokens as they should. Those that are not about Tokens record
none, and set up their sessions in one and the same way.
-/
namespace ProxyOperator

open Attempt Reconcile

variable {kind : Kind} {context : Context} {α : Type}

/-! ## The frame of a pass -/

theorem upkeep_plain {key : ObjectKey} (other : kind ≠ .token) : Upkeep Effect.Plain kind key :=
  ⟨trivial, fun _ _ => other, fun _ => trivial, fun _ => trivial⟩

theorem updateStatus_plain {key : ObjectKey} {change : kind.Status → kind.Status}
    (other : kind ≠ .token) : Asks Effect.Plain (updateStatus context kind key change) :=
  (upkeep_plain other).updateStatus

theorem announceDone_plain {resource : Resource kind} {reason note : String} :
    Asks Effect.Plain (announceDone resource reason note) :=
  announce_asks (fun _ => trivial) _ _ _ _ _

/-- The end of a pass that succeeds. -/
theorem concludes_plain {key : ObjectKey} {change : kind.Status → kind.Status} {action : Action}
    (other : kind ≠ .token) : Asks Effect.Plain (do
      updateStatus context kind key change
      return action) :=
  .bind (updateStatus_plain other) fun _ => .pure

theorem deleteOwned_discreet {reference : Option ResourceRef} {«namespace» : String}
    {collection : Remote.Collection} {id : UInt32} :
    Discreet (deleteOwned context reference «namespace» collection id) :=
  .bind (connect_discreet _ _ _) fun _ => .of_asks (deleteRemote_asks trivial)

namespace Discreet

theorem finish {resource : Resource kind} {converge : Staged α} {succeed : α → Pass Action}
    (other : kind ≠ .token) (converges : Discreet converge)
    (succeeds : ∀ outcome, Discreet (succeed outcome)) :
    Discreet (Reconcile.finish context resource converge succeed) :=
  Always.finish (fun _ _ _ _ => trivial) (fun _ => of_asks (updateStatus_plain other)) converges
    succeeds

theorem dismiss {resource : Resource kind} {cleanup : Option (Pass String)}
    (cleans : ∀ pass ∈ cleanup, Discreet pass) : Discreet (Reconcile.dismiss resource cleanup) :=
  Always.dismiss (fun _ _ _ _ => trivial) (fun _ _ _ _ => trivial) cleans

end Discreet

/-! ## Adopting -/

namespace Adopting

variable {adopting : Adopting kind} {session : Remote.Session} {resource : Resource kind}

theorem findRemote_plain (other : kind ≠ .token) :
    Asks Effect.Plain (adopting.findRemote context session resource) :=
  findRemote_asks (upkeep_plain other) trivial fun _ => trivial

theorem write_plain (other : kind ≠ .token) {existing : Option adopting.collection.Object}
    {payload : adopting.collection.Payload} :
    Asks Effect.Plain (adopting.write context session resource existing payload) :=
  write_asks (upkeep_plain other) (fun _ => trivial) trivial

theorem cleanup_discreet :
    ∀ pass ∈ adopting.cleanup context resource, Discreet pass := by
  intro pass member
  obtain rfl := Adopting.eq_of_cleanup member
  refine .bind (connect_discreet _ _ _) fun session => .of_asks ?_
  exact cleanUp_asks (fun _ _ _ => trivial) (fun _ _ => trivial) (fun _ _ => trivial)
    fun _ _ => trivial

end Adopting

/-! ## Passes -/

namespace Reconcile

/-- A pass checks the declaration and sets up its session before all else that may matter. -/
theorem begins_discreet {check : Except Problem Unit} {reference : Option ResourceRef}
    {«namespace» : String} {rest : Remote.Session → Staged α}
    (plain : ∀ session, Asks Effect.Plain (rest session)) :
    Discreet (do
      Stage.check check
      rest (← Stage.token.run (connect context reference «namespace»))) :=
  .bind (.of_asks .check) fun _ => .bind (.staged (connect_discreet _ _ _)) fun session =>
    .of_asks (plain session)

theorem ProxyHosts.upgrade_plain {host : ProxyHost} {session : Remote.Session}
    {certificate : HostCertificate} {accessListId : Option UInt32} {remote : Remote.Host} :
    Asks Effect.Plain (upgrade session host certificate accessListId remote) := by
  refine .bind (.staged ((resolveTargets_asks host true).mono fun _ => .of_looks)) fun targets => ?_
  split
  · exact .pure
  · exact .staged ⟨trivial, fun _ => trivial⟩

theorem ProxyHosts.converge_discreet (host : ProxyHost) : Discreet (converge context host) := by
  apply begins_discreet
  intro session
  refine .bind (.staged ((checkClaims_asks host).mono fun _ => .of_looks)) fun _ => ?_
  refine .bind (Adopting.findRemote_plain Kind.noConfusion) fun found => ?_
  refine .bind (.staged ((HostCertificate.resolve_asks _ _ _ _ _).mono
    fun _ => Or.rec .of_looks .of_consults)) fun certificate => ?_
  refine .bind (.staged ((HostAccess.resolve_asks _ _ _).mono
    fun _ => Or.rec .of_looks .of_consults)) fun accessListId => ?_
  refine .bind (.staged ((resolveTargets_asks host _).mono fun _ => .of_looks)) fun targets => ?_
  refine .bind (.staged (Adopting.write_plain Kind.noConfusion)) fun first => ?_
  have enables : ∀ remote : Remote.Host, Asks Effect.Plain (do
      unless remote.enabled do
        Stage.remote.run (session.enable .proxyHosts remote.id)
      return ⟨remote.id, found.2, remote.health.online, certificate⟩ : Staged Converged) :=
    fun remote => .doUnless (.staged ⟨trivial, fun _ => trivial⟩) fun _ => .pure
  dsimp only
  split
  · exact .bind upgrade_plain enables
  · exact enables first

theorem ProxyHosts.reconcile_discreet (host : ProxyHost) : Discreet (reconcile context host) := by
  have other : Kind.proxyHost ≠ .token := Kind.noConfusion
  unfold reconcile
  split
  · exact .dismiss Adopting.cleanup_discreet
  · refine .bind (.of_asks (hold_asks host trivial)) fun _ => ?_
    refine .bind (.of_asks (begin_asks trivial (fun _ _ => other) fun _ => trivial)) fun _ => ?_
    exact .finish other (converge_discreet host) fun _ =>
      .of_asks (concludes_plain other)

theorem Streams.converge_discreet (stream : Stream) : Discreet (converge context stream) := by
  apply begins_discreet
  intro session
  refine .bind (.staged ((checkClaims_asks stream).mono fun _ => .of_looks)) fun _ => ?_
  refine .bind (Adopting.findRemote_plain Kind.noConfusion) fun found => ?_
  refine .bind (.staged ((Target.resolve_asks _ _ _).mono fun _ => .of_looks)) fun target => ?_
  refine .bind (.staged (Adopting.write_plain Kind.noConfusion)) fun remote => ?_
  exact .doUnless (.staged ⟨trivial, fun _ => trivial⟩) fun _ => .pure

theorem Streams.reconcile_discreet (stream : Stream) : Discreet (reconcile context stream) := by
  have other : Kind.stream ≠ .token := Kind.noConfusion
  unfold reconcile
  split
  · exact .dismiss Adopting.cleanup_discreet
  · refine .bind (.of_asks (hold_asks stream trivial)) fun _ => ?_
    refine .bind (.of_asks (begin_asks trivial (fun _ _ => other) fun _ => trivial)) fun _ => ?_
    exact .finish other (converge_discreet stream) fun _ =>
      .of_asks (concludes_plain other)

theorem AccessLists.write_plain {session : Remote.Session} {recorded : Option UInt32}
    {payload : Remote.AccessList.Payload} : Asks Effect.Plain (write session recorded payload) := by
  cases recorded with
  | some id => exact .bind ⟨trivial, fun _ => trivial⟩ fun _ => .pure
  | none => exact .bind ⟨trivial, fun _ => trivial⟩ fun _ => .pure

theorem AccessLists.converge_discreet (list : AccessList) : Discreet (converge context list) := by
  have logins : Asks Effect.Plain
      (list.spec.authorizations.mapM (login list.metadata.spokenKey.namespace)) :=
    .mapM (fun _ => (login_asks _ _).mono fun _ => .of_looks) _
  refine .bind (.of_asks .check) fun _ => ?_
  refine .bind (.staged (.of_asks logins)) fun _ => ?_
  refine .bind (.staged (connect_discreet _ _ _)) fun session => ?_
  exact .of_asks (.staged write_plain)

theorem AccessLists.reconcile_discreet (list : AccessList) : Discreet (reconcile context list) := by
  have other : Kind.accessList ≠ .token := Kind.noConfusion
  unfold reconcile
  split
  · apply Discreet.dismiss
    intro pass member
    rcases Option.map_eq_some_iff.mp member with ⟨id, _, rfl⟩
    exact deleteOwned_discreet
  · refine .bind (.of_asks (hold_asks list trivial)) fun _ => ?_
    refine .finish other (converge_discreet list) fun outcome => .of_asks ?_
    exact .doIf announceDone_plain fun _ => concludes_plain other

theorem LetsEncryptCertificates.request_plain {session : Remote.Session}
    {certificate : LetsEncryptCertificate} :
    Asks Effect.Plain (request context session certificate) := by
  refine .bind (.staged .demand) fun email => ?_
  refine .bind (.staged ((withChallenge_asks _ _ _).mono fun _ => .of_looks)) fun payload => ?_
  exact .staged ⟨trivial, fun _ => trivial⟩

theorem LetsEncryptCertificates.converge_discreet (certificate : LetsEncryptCertificate) :
    Discreet (converge context certificate) := by
  apply begins_discreet
  intro session
  split
  · exact .bind (.staged ⟨trivial, fun _ => trivial⟩) fun _ => .pure
  · refine .bind (.staged ⟨trivial, fun _ => trivial⟩) fun listed => ?_
    split
    · exact .pure
    · exact .bind request_plain fun _ => .pure

theorem LetsEncryptCertificates.reconcile_discreet (certificate : LetsEncryptCertificate) :
    Discreet (reconcile context certificate) := by
  have other : Kind.letsEncryptCertificate ≠ .token := Kind.noConfusion
  unfold reconcile
  split
  · apply Discreet.dismiss
    intro pass member
    rcases Option.map_eq_some_iff.mp member with ⟨id, _, rfl⟩
    exact deleteOwned_discreet
  · refine .bind (.of_asks (hold_asks certificate trivial)) fun _ => ?_
    refine .finish other (converge_discreet certificate) fun outcome => .of_asks ?_
    split
    · exact .bind announceDone_plain fun _ => concludes_plain other
    · exact concludes_plain other

theorem CustomCertificates.make_plain {session : Remote.Session} {certificate : CustomCertificate} :
    Asks Effect.Plain (make context session certificate) :=
  .bind ⟨trivial, fun _ => trivial⟩ fun _ =>
    .bind (updateStatus_plain Kind.noConfusion) fun _ => .pure

theorem CustomCertificates.converge_discreet (certificate : CustomCertificate) :
    Discreet (converge context certificate) := by
  refine .bind (.of_asks .check) fun _ => ?_
  refine .bind (.staged (.of_asks ((readMaterial_asks certificate).mono fun _ => .of_looks)))
    fun material => ?_
  refine .bind (.staged (connect_discreet _ _ _)) fun session => .of_asks ?_
  have uploads (id : UInt32) (due : Bool) : Asks Effect.Plain (do
      if due then Stage.remote.run (session.upload id material)
      return ⟨← Stage.remote.run (session.get .certificates id), material.fingerprint, due⟩ :
        Staged Converged) :=
    .doIf (.staged ⟨trivial, fun _ => trivial⟩) fun _ =>
      .bind (.staged ⟨trivial, fun _ => trivial⟩) fun _ => .pure
  split
  · exact .bind .pure fun id => uploads id _
  · exact .bind (.staged make_plain) fun id => uploads id _

theorem CustomCertificates.reconcile_discreet (certificate : CustomCertificate) :
    Discreet (reconcile context certificate) := by
  have other : Kind.customCertificate ≠ .token := Kind.noConfusion
  unfold reconcile
  split
  · apply Discreet.dismiss
    intro pass member
    rcases Option.map_eq_some_iff.mp member with ⟨id, _, rfl⟩
    exact deleteOwned_discreet
  · refine .bind (.of_asks (hold_asks certificate trivial)) fun _ => ?_
    refine .finish other (converge_discreet certificate) fun outcome => .of_asks ?_
    exact .doIf announceDone_plain fun _ => concludes_plain other

end Reconcile

theorem reconcile_discreet (context : Context) (kind : Kind) (resource : Resource kind) :
    Discreet (reconcile context kind resource) := by
  cases kind with
  | proxyHost => exact ProxyHosts.reconcile_discreet resource
  | stream => exact Streams.reconcile_discreet resource
  | token => exact Tokens.reconcile_discreet context resource
  | letsEncryptCertificate => exact LetsEncryptCertificates.reconcile_discreet resource
  | customCertificate => exact CustomCertificates.reconcile_discreet resource
  | accessList => exact AccessLists.reconcile_discreet resource

end ProxyOperator
