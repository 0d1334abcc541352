import ProxyOperator.Proofs.ErrandPasses
import ProxyOperator.Proofs.HostRequests
import ProxyOperator.Proofs.Playing
import ProxyOperator.Proofs.Standstill
import ProxyOperator.Proofs.Worlds
/-!
Secrets of other namespaces. A pass reads Secrets of the namespace of its resource only, whatever else the
declaration refers to; so what other Secrets there are, and what is in them, makes no difference to it.
-/
namespace ProxyOperator

open Attempt Reconcile

/-- A request that reads no Secret of another namespace. -/
def Effect.Private («namespace» : String) : Effect → Prop
  | .secret key => key.namespace = «namespace»
  | _ => True

namespace Effect.Private

variable {effect : Effect} {«namespace» : String}

theorem of_connects (asked : effect.SeeksToken ∨ effect.Connects) : effect.Private «namespace» := by
  cases effect with
  | secret key => exact asked.elim False.elim False.elim
  | _ => trivial

theorem of_consults {collection : Remote.Collection} (consults : effect.Consults collection) :
    effect.Private «namespace» := by
  cases effect with
  | secret key => exact consults.elim
  | _ => trivial

end Effect.Private

/-! ## Parts of passes -/

namespace Reconcile

variable {kind : Kind} {context : Context} {«namespace» : String}

theorem upkeep_private {key : ObjectKey} : Upkeep (Effect.Private «namespace») kind key :=
  ⟨trivial, fun _ _ => trivial, fun _ => trivial, fun _ => trivial⟩

theorem connect_private {reference : Option ResourceRef} {own : String} :
    Asks (Effect.Private «namespace») (connect context reference own) :=
  (connect_seeks context reference own).mono fun _ => .of_connects

theorem concludes_private {key : ObjectKey} {change : kind.Status → kind.Status} {action : Action} :
    Asks (Effect.Private «namespace») (do
      updateStatus context kind key change
      return action) :=
  .bind upkeep_private.updateStatus fun _ => .pure

theorem announceDone_private {resource : Resource kind} {reason note : String} :
    Asks (Effect.Private «namespace») (announceDone resource reason note) :=
  announce_asks (fun _ => trivial) _ _ _ _ _

theorem hold_private (resource : Resource kind) :
    Asks (Effect.Private «namespace») (hold resource) :=
  hold_asks resource trivial

theorem dismiss_private {resource : Resource kind} {cleanup : Option (Pass String)}
    (cleans : ∀ pass ∈ cleanup, Asks (Effect.Private «namespace») pass) :
    Asks (Effect.Private «namespace») (dismiss resource cleanup) :=
  dismiss_asks (fun _ => trivial) trivial cleans

/-- To delete a remote object, if there is one, takes no Secrets. -/
theorem deleteOwned_private {reference : Option ResourceRef} {own : String}
    {collection : Remote.Collection} {id : Option UInt32} :
    ∀ pass ∈ id.map (deleteOwned context reference own collection),
      Asks (Effect.Private «namespace») pass := by
  intro pass member
  rcases Option.map_eq_some_iff.mp member with ⟨id, _, rfl⟩
  exact .bind connect_private fun _ => deleteRemote_asks trivial

theorem target_private (owner : ObjectKey) (forward : Forward) :
    Target.Permits (Effect.Private «namespace») owner forward :=
  ⟨fun _ _ => trivial, fun _ => trivial, fun _ _ => trivial⟩

end Reconcile

theorem Adopting.cleanup_private {kind : Kind} {adopting : Adopting kind} {context : Context}
    {resource : Resource kind} {«namespace» : String} :
    ∀ pass ∈ adopting.cleanup context resource, Asks (Effect.Private «namespace») pass :=
  cleanup_permitted connect_private fun _ _ => trivial

/-! ## Passes -/

namespace Reconcile

variable {context : Context}

theorem ProxyHosts.reconcile_private (host : ProxyHost) («namespace» : String) :
    Asks (Effect.Private «namespace») (reconcile context host) := by
  apply Permits.reconcile
  constructor
  case toUpkeep => exact upkeep_private
  case holds => trivial
  case releases => trivial
  case others => trivial
  case remote => exact fun _ _ _ => trivial
  case deletes => exact fun _ _ _ _ _ => trivial
  case connects => exact connect_private
  case certifies =>
    exact fun session => HostCertificate.resolve_permitted session _ _ _ _ (fun _ => .of_consults)
      (fun _ _ _ _ => trivial) fun _ _ _ _ => trivial
  case guards =>
    exact fun session => HostAccess.resolve_permitted session _ _ (fun _ => .of_consults)
      fun _ _ _ _ => trivial
  case targets =>
    exact fun unscoped => resolveTargets_permitted host unscoped (target_private _ _)
      fun _ _ => target_private _ _

theorem Streams.converge_private (stream : Stream) («namespace» : String) :
    Asks (Effect.Private «namespace») (converge context stream) := by
  unfold converge
  refine .bind .check fun _ => ?_
  refine .bind (.staged connect_private) fun session => ?_
  refine .bind (.staged (.bind ⟨trivial, fun _ => trivial⟩ fun streams => ?_)) fun _ => ?_
  · split
    · exact .pure
    · exact .throw
  refine .bind (Adopting.findRemote_asks upkeep_private trivial fun _ => trivial) fun found => ?_
  refine .bind (.staged ((target_private _ _).resolve _)) fun target => ?_
  refine .bind (.staged (Adopting.write_asks upkeep_private (fun _ => trivial) trivial))
    fun remote => ?_
  exact .doUnless (.staged ⟨trivial, fun _ => trivial⟩) fun _ => .pure

theorem Streams.reconcile_private (stream : Stream) («namespace» : String) :
    Asks (Effect.Private «namespace») (reconcile context stream) := by
  unfold reconcile
  split
  · exact dismiss_private Adopting.cleanup_private
  · refine .bind (hold_private stream) fun _ => ?_
    refine .bind (begin_asks trivial (fun _ _ => trivial) fun _ => trivial) fun _ => ?_
    exact upkeep_private.finish (converge_private stream «namespace») fun _ => concludes_private

/-- The login for a Token is in the namespace of the Token. -/
theorem Tokens.issue_private (token : Token) :
    Asks (Effect.Private token.metadata.spokenKey.namespace) (issue token) := by
  have own : (Effect.secret ⟨token.metadata.spokenKey.namespace, token.spec.secret.name⟩).Private
      token.metadata.spokenKey.namespace := rfl
  unfold issue
  -- Nothing depends on how the endpoint is trimmed, and unfolding that takes long.
  generalize trimText token.spec.endpoint = endpoint
  refine .doIf .check fun _ => ?_
  refine .bind (.staged (secretText_permitted own _)) fun identity => ?_
  refine .bind (.staged (secretText_permitted own _)) fun secret => ?_
  exact .staged ⟨trivial, fun _ => trivial⟩

theorem Tokens.reconcile_private (token : Token) :
    Asks (Effect.Private token.metadata.spokenKey.namespace) (reconcile context token) := by
  have issues := issue_private token
  unfold reconcile
  dsimp only
  split
  · exact .pure
  · split
    · -- opened, the check of the endpoint would be evaluated
      generalize issue token = issuing at issues ⊢
      exact upkeep_private.finish issues fun _ =>
        .bind announceDone_private fun _ => concludes_private
    · exact .pure

theorem AccessLists.reconcile_private (list : AccessList) :
    Asks (Effect.Private list.metadata.spokenKey.namespace) (reconcile context list) := by
  have converges :
      Asks (Effect.Private list.metadata.spokenKey.namespace) (converge context list) := by
    refine .bind .check fun _ => ?_
    refine .bind (.staged (.mapM (fun given => login_permitted given rfl) _)) fun logins => ?_
    refine .bind (.staged connect_private) fun session => .staged ?_
    unfold write
    split
    · exact .bind ⟨trivial, fun _ => trivial⟩ fun _ => .pure
    · exact .bind ⟨trivial, fun _ => trivial⟩ fun _ => .pure
  unfold reconcile
  split
  · exact dismiss_private deleteOwned_private
  · refine .bind (hold_private list) fun _ => ?_
    exact upkeep_private.finish converges fun _ =>
      .doIf announceDone_private fun _ => concludes_private

theorem LetsEncryptCertificates.converge_private (certificate : LetsEncryptCertificate) :
    Asks (Effect.Private certificate.metadata.spokenKey.namespace) (converge context certificate) := by
  have requests (session : Remote.Session) :
      Asks (Effect.Private certificate.metadata.spokenKey.namespace)
        (request context session certificate) := by
    refine .bind (.staged .demand) fun email => ?_
    refine .bind (.staged (withChallenge_permitted _ fun _ _ => rfl)) fun payload => ?_
    exact .staged ⟨trivial, fun _ => trivial⟩
  refine .bind .check fun _ => .bind (.staged connect_private) fun session => ?_
  split
  · exact .bind (.staged ⟨trivial, fun _ => trivial⟩) fun _ => .pure
  · refine .bind (.staged ⟨trivial, fun _ => trivial⟩) fun listed => ?_
    split
    · exact .pure
    · exact .bind (requests session) fun _ => .pure

theorem LetsEncryptCertificates.reconcile_private (certificate : LetsEncryptCertificate) :
    Asks (Effect.Private certificate.metadata.spokenKey.namespace) (reconcile context certificate) := by
  unfold reconcile
  split
  · exact dismiss_private deleteOwned_private
  · refine .bind (hold_private certificate) fun _ => ?_
    refine upkeep_private.finish (converge_private certificate) fun outcome => ?_
    split
    · exact .bind announceDone_private fun _ => concludes_private
    · exact concludes_private

theorem CustomCertificates.converge_private (certificate : CustomCertificate) :
    Asks (Effect.Private certificate.metadata.spokenKey.namespace) (converge context certificate) := by
  refine .bind .check fun _ => ?_
  refine .bind (.staged (readMaterial_permitted rfl)) fun material => ?_
  refine .bind (.staged connect_private) fun session => ?_
  have makes : Asks (Effect.Private certificate.metadata.spokenKey.namespace)
      (make context session certificate) :=
    .bind ⟨trivial, fun _ => trivial⟩ fun _ => .bind upkeep_private.updateStatus fun _ => .pure
  have uploads (id : UInt32) (due : Bool) :
      Asks (Effect.Private certificate.metadata.spokenKey.namespace) (do
        if due then Stage.remote.run (session.upload id material)
        return ⟨← Stage.remote.run (session.get .certificates id), material.fingerprint, due⟩ :
          Staged Converged) :=
    .doIf (.staged ⟨trivial, fun _ => trivial⟩) fun _ =>
      .bind (.staged ⟨trivial, fun _ => trivial⟩) fun _ => .pure
  dsimp only
  split
  · exact .bind .pure fun id => uploads id _
  · exact .bind (.staged makes) fun id => uploads id _

theorem CustomCertificates.reconcile_private (certificate : CustomCertificate) :
    Asks (Effect.Private certificate.metadata.spokenKey.namespace) (reconcile context certificate) := by
  unfold reconcile
  split
  · exact dismiss_private deleteOwned_private
  · refine .bind (hold_private certificate) fun _ => ?_
    exact upkeep_private.finish (converge_private certificate) fun _ =>
      .doIf announceDone_private fun _ => concludes_private

end Reconcile

theorem reconcile_private (context : Context) (kind : Kind) (resource : Resource kind) :
    Asks (Effect.Private resource.metadata.spokenKey.namespace) (reconcile context kind resource) := by
  cases kind with
  | proxyHost => exact ProxyHosts.reconcile_private resource _
  | stream => exact Streams.reconcile_private resource _
  | token => exact Tokens.reconcile_private resource
  | letsEncryptCertificate => exact LetsEncryptCertificates.reconcile_private resource
  | customCertificate => exact CustomCertificates.reconcile_private resource
  | accessList => exact AccessLists.reconcile_private resource

/-! ## Worlds with Secrets -/

/-- A world: what is found in its Secrets at each moment, and how it answers all else. -/
structure Realm (ρ : Type) where
  secrets : ρ → ObjectKey → Except Failure (Option Secret)
  respond : Respondent ρ

namespace Realm

variable {ρ : Type} {here there : Realm ρ} {«namespace» : String}

def answer (realm : Realm ρ) : Respondent ρ
  | moment, .secret key => (realm.secrets moment key, (realm.respond moment (.secret key)).2)
  | moment, effect => realm.respond moment effect

/-- Worlds that differ in the Secrets of other namespaces only: in which there are, and in what is in
them. -/
structure Alike («namespace» : String) (here there : Realm ρ) : Prop where
  rest : here.respond = there.respond
  own : ∀ moment key, key.namespace = «namespace» →
    here.secrets moment key = there.secrets moment key

theorem Alike.answer {effect : Effect} (alike : Alike «namespace» here there) (moment : ρ)
    (discreet : effect.Private «namespace») :
    here.answer moment effect = there.answer moment effect := by
  cases effect with
  | secret key =>
      change (here.secrets moment key, (here.respond moment (.secret key)).2) =
        (there.secrets moment key, (there.respond moment (.secret key)).2)
      rw [alike.own moment key discreet, alike.rest]
  | _ => exact congrFun (congrFun alike.rest moment) _

/-- A pass on a resource of any kind comes to the same in worlds that differ in the Secrets of other
namespaces only: it asks the same, is answered the same, ends in the same way and leaves the same behind. -/
theorem foreign_secrets_irrelevant (context : Context) (kind : Kind) (resource : Resource kind)
    (alike : Alike resource.metadata.spokenKey.namespace here there) (moment : ρ) :
    here.answer.stay (reconcile context kind resource).run moment =
      there.answer.stay (reconcile context kind resource).run moment :=
  Respondent.stay_eq (fun moment _ discreet => alike.answer moment discreet)
    (reconcile_private context kind resource) moment

end Realm

namespace Sample

/-- An access list whose Token is in another namespace. -/
def guarded : AccessList where
  metadata := { (default : Metadata) with
    name := some "team", «namespace» := some "apps", finalizers := some [finalizer] }
  spec := ⟨false, false, [⟨"ann", ⟨"login", "password"⟩⟩], [], some ⟨"npm", some "shared"⟩⟩
  status := none

def password (text : String) : Secret :=
  { (default : Secret) with texts := some (.ofList [("password", text)]) }

/-- A Secret of the same name in two namespaces, or in the first of them only. -/
def realm (foreign : Option String) : Realm Unit where
  secrets _ key :=
    if key = ⟨"apps", "login"⟩ then .ok (some (password "one"))
    else if key = ⟨"shared", "login"⟩ then .ok (foreign.map password)
    else .ok none
  respond
    | _, .read .token _ => (.ok (some token), ())
    | _, .read .accessList _ => (.ok none, ())
    | _, .connect _ => (.ok (), ())
    | _, .remote _ (.create .accessLists _) => (.ok default, ())
    | _, effect => (Standstill.barren effect, ())

end Sample

/-- The Secret of another tenant has the name that the access list asks for, in the namespace where its Token
is. -/
theorem Realm.foreign_secrets_irrelevant_namesake :
    let list := Sample.guarded
    let here := Sample.realm none
    let there := Sample.realm (some "two")
    Alike list.metadata.spokenKey.namespace here there ∧
      (there.secrets () ⟨"shared", "login"⟩).toOption ≠ (here.secrets () ⟨"shared", "login"⟩).toOption ∧
      (here.answer.stay (reconcile Sample.context .accessList list).run ()).outcome.isOk = true ∧
      here.answer.stay (reconcile Sample.context .accessList list).run () =
        there.answer.stay (reconcile Sample.context .accessList list).run () := by
  intro list here there
  have alike : Alike list.metadata.spokenKey.namespace here there := by
    refine ⟨rfl, fun moment key own => ?_⟩
    have apart : key ≠ ⟨"shared", "login"⟩ := by
      rintro rfl
      exact absurd own (by decide)
    simp only [here, there, Sample.realm, apart, if_false]
  refine ⟨alike, ?_, ?_, foreign_secrets_irrelevant Sample.context .accessList list alike ()⟩
  · intro same
    cases congrArg Option.isSome (Option.some.inj same)
  · decide +kernel

end ProxyOperator
