import ProxyOperator.Proofs.Attempt
import ProxyOperator.Reconcile.Resource
/-!
What the parts of passes ask of the world. Each part is said to make requests of a few sorts only, so
that what other sorts of requests change is left alone by it.
-/
namespace ProxyOperator

namespace Effect

def Looks : Effect → Prop
  | .read _ _ => True
  | .list _ _ => True
  | .secret _ => True
  | .service _ => True
  | .pods _ _ => True
  | .node _ => True
  | _ => False

def Connects : Effect → Prop
  | .connect _ => True
  | _ => False

def Consults (collection : Remote.Collection) : Effect → Prop
  | .remote _ (.list other) => other = collection
  | .remote _ (.get other _) => other = collection
  | .remote _ (.create other _) => other = collection
  | _ => False

def Quiet : Effect → Prop
  | .writeStatus _ _ _ _ => False
  | _ => True

def SeeksToken : Effect → Prop
  | .read kind _ => kind = .token
  | .list kind (some _) => kind = .token
  | _ => False

theorem SeeksToken.looks {effect : Effect} (seeks : effect.SeeksToken) : effect.Looks := by
  cases effect with
  | read | list => trivial
  | _ => exact seeks.elim

theorem Quiet.of_looks {effect : Effect} (looks : effect.Looks) : effect.Quiet := by
  cases effect <;> trivial

theorem Quiet.of_connects {effect : Effect} (connects : effect.Connects) : effect.Quiet := by
  cases effect <;> trivial

theorem Quiet.of_consults {collection : Remote.Collection} {effect : Effect}
    (consults : effect.Consults collection) : effect.Quiet := by
  cases effect <;> trivial

end Effect

namespace Attempt.Asks

variable {α : Type} {allowed : Effect → Prop}

theorem check {result : Except Problem Unit} : Asks allowed (Stage.check result) := by
  cases result with
  | ok value => trivial
  | error problem => trivial

theorem targetOrFail {result : Except Target.Problem α} : Asks allowed (Target.orFail result) := by
  cases result with
  | ok value => trivial
  | error problem => trivial

theorem orFail {result : Except Failure α} : Asks allowed (Reconcile.orFail result) := by
  cases result with
  | ok value => trivial
  | error failure => trivial

end Attempt.Asks

open Attempt

/-! ## Tokens, sessions and Secrets -/

namespace Reconcile

section

variable {allowed : Effect → Prop} (context : Context) (reference : Option ResourceRef)
  («namespace» : String)

/-- A Token is looked for by the reference to it, or else in two namespaces. -/
theorem findToken_permitted
    (refers : ∀ given ∈ reference, allowed (.read .token (given.resolve «namespace»)))
    (discovers : reference = none → allowed (.list .token (some «namespace»)) ∧
      allowed (.list .token (some context.settings.operatorNamespace))) :
    Asks allowed (findToken context reference «namespace») := by
  unfold findToken
  cases reference with
  | some given => exact .bind ⟨refers given rfl, fun _ => trivial⟩ fun _ => .demand
  | none =>
      have ⟨own, shared⟩ := discovers rfl
      refine .bind ⟨own, fun _ => trivial⟩ fun tokens => ?_
      dsimp only
      split
      · exact .bind ⟨shared, fun _ => trivial⟩ fun _ => .demand
      · exact .bind .pure fun _ => .demand

theorem connect_permitted
    (refers : ∀ given ∈ reference, allowed (.read .token (given.resolve «namespace»)))
    (discovers : reference = none → allowed (.list .token (some «namespace»)) ∧
      allowed (.list .token (some context.settings.operatorNamespace)))
    (connects : ∀ session, allowed (.connect session)) :
    Asks allowed (connect context reference «namespace») := by
  unfold connect
  refine .bind (findToken_permitted context reference «namespace» refers discovers) fun token => ?_
  exact .bind .demand fun bearer => .bind ⟨connects _, fun _ => trivial⟩ fun _ => .pure

end

theorem findToken_seeks (context : Context) (reference : Option ResourceRef) («namespace» : String) :
    Asks Effect.SeeksToken (findToken context reference «namespace») :=
  findToken_permitted context reference «namespace» (fun _ _ => rfl) fun _ => ⟨rfl, rfl⟩

theorem connect_seeks (context : Context) (reference : Option ResourceRef) («namespace» : String) :
    Asks (fun effect => effect.SeeksToken ∨ effect.Connects)
      (connect context reference «namespace») :=
  connect_permitted context reference «namespace» (fun _ _ => .inl rfl)
    (fun _ => ⟨.inl rfl, .inl rfl⟩) fun _ => .inr trivial

theorem findToken_asks (context : Context) (reference : Option ResourceRef) («namespace» : String) :
    Asks Effect.Looks (findToken context reference «namespace») :=
  (findToken_seeks context reference «namespace»).mono fun _ => Effect.SeeksToken.looks

theorem connect_asks (context : Context) (reference : Option ResourceRef) («namespace» : String) :
    Asks (fun effect => effect.Looks ∨ effect.Connects) (connect context reference «namespace») :=
  (connect_seeks context reference «namespace»).mono fun _ asked =>
    asked.imp_left Effect.SeeksToken.looks

theorem secret_permitted {allowed : Effect → Prop} {key : ObjectKey} (reads : allowed (.secret key)) :
    Asks allowed (secret key) :=
  .bind ⟨reads, fun _ => trivial⟩ fun _ => .demand

theorem secretText_permitted {allowed : Effect → Prop} {key : ObjectKey}
    (reads : allowed (.secret key)) (field : String) : Asks allowed (secretText key field) :=
  .bind (secret_permitted reads) fun _ => .bind .orFail fun _ => .demand

theorem secretText_asks (key : ObjectKey) (field : String) :
    Asks Effect.Looks (secretText key field) :=
  secretText_permitted trivial field

end Reconcile

/-! ## Forward targets -/

namespace Target

/-- Requests of this sort are enough to resolve a forward: those about pods and nodes, and the one for the
Service that it names. -/
structure Permits (allowed : Effect → Prop) (owner : ObjectKey) (forward : Forward) : Prop where
  pods : ∀ «namespace» selector, allowed (.pods «namespace» selector)
  nodes : ∀ name, allowed (.node name)
  service : ∀ reference ∈ forward.service, allowed (.service (reference.resolve owner.namespace))

namespace Permits

variable {allowed : Effect → Prop} {owner : ObjectKey} {forward : Forward}
  (permits : Permits allowed owner forward)

include permits

theorem nodeIps («namespace» : String) (labels : Dictionary String) :
    Asks allowed (nodeIps «namespace» labels) := by
  refine .bind ⟨permits.pods _ _, fun _ => trivial⟩ fun pods => ?_
  refine .bind (.mapM (fun name => ?_) _) fun _ => .pure
  exact .bind ⟨permits.nodes name, fun _ => trivial⟩ fun _ => .pure

theorem ofService (unscoped : Bool) (scheme : Scheme) («namespace» : String)
    (explicit : Option UInt16) (service : Service) :
    Asks allowed (ofService owner unscoped scheme «namespace» explicit service) := by
  unfold Target.ofService
  dsimp only
  split
  · exact .throw
  · split
    · exact .bind .targetOrFail fun _ => .pure
    · refine .bind .targetOrFail fun port => .doIf .throw fun _ => ?_
      exact .bind (permits.nodeIps _ _) fun addresses => .doIf .throw fun _ => .targetOrFail
    · exact .bind .targetOrFail fun _ => .bind .targetOrFail fun _ => .pure

theorem resolve (unscoped : Bool) : Asks allowed (resolve owner unscoped forward) := by
  have found : Asks allowed (coordinates owner unscoped forward) := by
    unfold coordinates
    split
    · exact .throw
    · exact .throw
    · exact .targetOrFail
    · next reference _ named =>
      refine .bind ?_ fun service => permits.ofService _ _ _ _ _
      exact .bind ⟨permits.service _ named, fun _ => trivial⟩ fun _ => .demand
  exact .bind found fun _ => .doIf .throw fun _ => .doIf .throw fun _ => .pure

end Permits

theorem resolve_asks (owner : ObjectKey) (unscoped : Bool) (forward : Forward) :
    Asks Effect.Looks (resolve owner unscoped forward) :=
  Permits.resolve ⟨fun _ _ => trivial, fun _ => trivial, fun _ _ => trivial⟩ unscoped

end Target

/-! ## Certificates and access lists -/

namespace HostCertificate

def Seeks (effect : Effect) : Prop := effect.Looks ∨ effect.Consults .certificates

theorem ofResource_asks {allowed : Effect → Prop} {kind : Kind} {key : ObjectKey}
    (reads : allowed (.read kind key)) (idOf : kind.Status → Option UInt32) :
    Asks allowed (ofResource kind idOf key) :=
  .bind ⟨reads, fun _ => trivial⟩ fun _ => .bind .demand fun _ => .demand

/-- A certificate is looked for by the references to it, and with the remote server. -/
theorem resolve_permitted {allowed : Effect → Prop} (session : Remote.Session)
    (ssl : Option ProxyHost.Ssl) (domains : List String) («namespace» : String)
    (defaultEmail : Option String)
    (consults : ∀ request, (Effect.remote session request).Consults .certificates →
      allowed (.remote session request))
    (issued : ∀ given ∈ ssl, ∀ reference ∈ given.letsEncryptCertificate,
      allowed (.read .letsEncryptCertificate (reference.resolve «namespace»)))
    (uploaded : ∀ given ∈ ssl, ∀ reference ∈ given.customCertificate,
      allowed (.read .customCertificate (reference.resolve «namespace»))) :
    Asks allowed (resolve session ssl domains «namespace» defaultEmail) := by
  have confirms (id : UInt32) : Asks allowed (confirm session id) :=
    .bind ⟨consults _ rfl, fun _ => trivial⟩ fun _ => .pure
  have finds (email : Option String) : Asks allowed (findOrRequest session domains email) := by
    unfold findOrRequest
    refine .bind ⟨consults _ rfl, fun _ => trivial⟩ fun certificates => ?_
    split
    · exact .pure
    · exact .bind .demand fun _ => .bind ⟨consults _ rfl, fun _ => trivial⟩ fun _ => .pure
  unfold resolve
  cases ssl with
  | none => exact .pure
  | some given =>
      dsimp only
      split
      · next named => exact .bind (ofResource_asks (issued given rfl _ named) _) fun _ => confirms _
      · next named => exact .bind (ofResource_asks (uploaded given rfl _ named) _) fun _ => confirms _
      · exact confirms _
      · split
        · exact finds _
        · exact .pure

theorem resolve_asks (session : Remote.Session) (ssl : Option ProxyHost.Ssl)
    (domains : List String) («namespace» : String) (defaultEmail : Option String) :
    Asks Seeks (resolve session ssl domains «namespace» defaultEmail) :=
  resolve_permitted session ssl domains «namespace» defaultEmail (fun _ => .inr)
    (fun _ _ _ _ => .inl trivial) fun _ _ _ _ => .inl trivial

end HostCertificate

namespace HostAccess

def Seeks (effect : Effect) : Prop := effect.Looks ∨ effect.Consults .accessLists

/-- An access list is looked for by its name, and with the remote server. -/
theorem resolve_permitted {allowed : Effect → Prop} (session : Remote.Session)
    (reference : Option ProxyHost.AccessRef) («namespace» : String)
    (consults : ∀ request, (Effect.remote session request).Consults .accessLists →
      allowed (.remote session request))
    (reads : ∀ given ∈ reference, ∀ name ∈ given.name,
      allowed (.read .accessList ⟨given.namespace.getD «namespace», name⟩)) :
    Asks allowed (resolve session reference «namespace») := by
  have confirms (id : UInt32) : Asks allowed (confirm session id) :=
    .bind ⟨consults _ rfl, fun _ => trivial⟩ fun _ => .pure
  unfold resolve
  cases reference with
  | none => exact .pure
  | some given =>
      dsimp only
      split
      · exact confirms _
      · next name _ named =>
        refine .bind ?_ fun _ => confirms _
        exact .bind ⟨reads given rfl _ named, fun _ => trivial⟩ fun _ => .bind .demand fun _ => .demand
      · exact .pure

theorem resolve_asks (session : Remote.Session) (reference : Option ProxyHost.AccessRef)
    («namespace» : String) : Asks Seeks (resolve session reference «namespace») :=
  resolve_permitted session reference «namespace» (fun _ => .inr) fun _ _ _ _ => .inl trivial

end HostAccess

/-! ## The frame of a pass, hosts and streams -/

namespace Reconcile

theorem announce_asks {kind : Kind} {allowed : Effect → Prop}
    (tells : ∀ event, allowed (.publish event)) (resource : Resource kind) (type : EventType)
    (reason action : String) (note : Option String) :
    Asks allowed (announce resource type reason action note) :=
  ⟨tells _, fun _ => trivial⟩

theorem hold_asks {kind : Kind} {allowed : Effect → Prop} (resource : Resource kind)
    (adds : allowed (.addFinalizer kind resource.metadata.spokenKey)) :
    Asks allowed (hold resource) := by
  unfold hold
  split
  · exact .pure
  · exact ⟨adds, fun _ => trivial⟩

theorem updateStatus_asks {context : Context} {kind : Kind} {key : ObjectKey}
    {change : kind.Status → kind.Status} {allowed : Effect → Prop}
    (reads : allowed (.read kind key))
    (writes : ∀ revision status, allowed (.writeStatus kind key revision status))
    (waits : ∀ time, allowed (.pause time)) :
    Asks allowed (updateStatus context kind key change) := by
  refine .retry waits (.bind ⟨reads, fun _ => trivial⟩ fun stored => ?_)
  cases stored with
  | none => exact .pure
  | some latest => exact ⟨writes _ _, fun _ => trivial⟩

theorem recordFailure_asks {context : Context} {kind : Kind} {resource : Resource kind}
    {stopped : StageFailure} {allowed : Effect → Prop}
    (reads : allowed (.read kind resource.metadata.spokenKey))
    (writes : ∀ revision status,
      allowed (.writeStatus kind resource.metadata.spokenKey revision status))
    (waits : ∀ time, allowed (.pause time)) :
    Asks allowed (recordFailure context resource stopped) :=
  .bind (.outcome (updateStatus_asks reads writes waits)) fun _ => .pure

namespace ProxyHosts

theorem begin_asks {context : Context} {host : ProxyHost} {allowed : Effect → Prop}
    (reads : allowed (.read .proxyHost host.metadata.spokenKey))
    (writes : ∀ revision status,
      allowed (.writeStatus .proxyHost host.metadata.spokenKey revision status))
    (waits : ∀ time, allowed (.pause time)) : Asks allowed (begin context host) := by
  unfold begin
  dsimp only
  split
  · exact updateStatus_asks reads writes waits
  · exact .pure

theorem checkClaims_asks (host : ProxyHost) : Asks Effect.Looks (checkClaims host) := by
  refine .bind ⟨trivial, fun _ => trivial⟩ fun hosts => ?_
  split
  · exact .pure
  · exact .throw

theorem resolveTargets_permitted {allowed : Effect → Prop} (host : ProxyHost) (unscoped : Bool)
    (main : Target.Permits allowed host.metadata.spokenKey host.spec.forward)
    (located : ∀ location ∈ host.spec.locations,
      Target.Permits allowed host.metadata.spokenKey location.forward) :
    Asks allowed (resolveTargets host unscoped) := by
  refine .bind (main.resolve unscoped) fun _ => ?_
  refine .bind (.mapM_of_mem fun location inside => ?_) fun _ => .pure
  exact .bind ((located location inside).resolve unscoped) fun _ => .pure

theorem resolveTargets_asks (host : ProxyHost) (unscoped : Bool) :
    Asks Effect.Looks (resolveTargets host unscoped) :=
  have permits (forward : Forward) :
      Target.Permits Effect.Looks host.metadata.spokenKey forward :=
    ⟨fun _ _ => trivial, fun _ => trivial, fun _ _ => trivial⟩
  resolveTargets_permitted host unscoped (permits _) fun _ _ => permits _

end ProxyHosts

theorem Streams.begin_asks {context : Context} {stream : Stream} {allowed : Effect → Prop}
    (reads : allowed (.read .stream stream.metadata.spokenKey))
    (writes : ∀ revision status,
      allowed (.writeStatus .stream stream.metadata.spokenKey revision status))
    (waits : ∀ time, allowed (.pause time)) : Asks allowed (begin context stream) := by
  unfold begin
  dsimp only
  split
  · exact updateStatus_asks reads writes waits
  · exact .pure

theorem Streams.checkClaims_asks (stream : Stream) : Asks Effect.Looks (checkClaims stream) := by
  refine .bind ⟨trivial, fun _ => trivial⟩ fun streams => ?_
  split
  · exact .pure
  · exact .throw

/-! ## The release of a resource -/

theorem farewell_asks {kind : Kind} {allowed : Effect → Prop} {resource : Resource kind}
    (releases : allowed (.removeFinalizer kind resource.metadata.spokenKey)) :
    Asks allowed (do
      Pass.removeFinalizer kind resource.metadata.spokenKey
      return Action.awaitChange) :=
  .bind ⟨releases, fun _ => trivial⟩ fun _ => .pure

theorem dismiss_asks {kind : Kind} {allowed : Effect → Prop} {resource : Resource kind}
    {cleanup : Option (Pass String)} (tells : ∀ event, allowed (.publish event))
    (releases : allowed (.removeFinalizer kind resource.metadata.spokenKey))
    (cleans : ∀ pass ∈ cleanup, Asks allowed pass) : Asks allowed (dismiss resource cleanup) := by
  have farewell := farewell_asks releases
  unfold dismiss
  split
  · unfold release
    cases cleanup with
    | none => exact farewell
    | some pass =>
        refine .bind (.outcome (cleans pass rfl)) fun outcome => ?_
        cases outcome with
        | ok reason => exact .bind (announce_asks tells _ _ _ _ _) fun _ => farewell
        | error failure => exact .bind (announce_asks tells _ _ _ _ _) fun _ => farewell
  · exact .pure

theorem deleteRemote_asks {allowed : Effect → Prop} {session : Remote.Session}
    {collection : Remote.Collection} {id : UInt32}
    (deletes : allowed (.remote session (.delete collection id))) :
    Asks allowed (deleteRemote session collection id) := by
  refine .bind (.outcome ⟨deletes, fun _ => trivial⟩) fun outcome => ?_
  cases outcome with
  | ok _ => exact .pure
  | error failure =>
      dsimp only
      split
      · exact .pure
      · exact .throw

end Reconcile

/-- The id of the object that is dealt with. -/
def Cleanup.id? {σ : Type} : Cleanup σ → Option UInt32
  | .restore id _ => some id
  | .disable id => some id
  | .delete id => some id
  | .nothing => none

theorem Cleanup.plan_id {σ : Type} (id : Option UInt32) (bound : Bool) (snapshot : Option σ) :
    (plan id bound snapshot).id? = id := by
  cases id with
  | none => rfl
  | some id => cases bound <;> cases snapshot <;> rfl

theorem Adopting.cleanUp_asks {kind : Kind} {adopting : Adopting kind} {allowed : Effect → Prop}
    {session : Remote.Session} {plan : Cleanup adopting.Snapshot}
    (updates : ∀ id payload, plan.id? = some id →
      allowed (.remote session (.update adopting.collection id payload)))
    (enables : ∀ id, plan.id? = some id →
      allowed (.remote session (.enable adopting.collection id)))
    (disables : ∀ id, plan.id? = some id →
      allowed (.remote session (.disable adopting.collection id)))
    (deletes : ∀ id, plan = .delete id →
      allowed (.remote session (.delete adopting.collection id))) :
    Asks allowed (adopting.cleanUp session plan) := by
  cases plan with
  | restore id snapshot =>
      refine .bind ⟨updates id _ rfl, fun _ => trivial⟩ fun _ => ?_
      dsimp only
      split
      · exact .bind ⟨enables id rfl, fun _ => trivial⟩ fun _ => .pure
      · exact .bind ⟨disables id rfl, fun _ => trivial⟩ fun _ => .pure
  | disable id => exact .bind ⟨disables id rfl, fun _ => trivial⟩ fun _ => .pure
  | delete id => exact Reconcile.deleteRemote_asks (deletes id rfl)
  | nothing => exact .pure

/-- To deal with the remote object of a resource is to do what is planned within a session. -/
theorem Adopting.eq_of_cleanup {kind : Kind} {adopting : Adopting kind} {context : Context}
    {resource : Resource kind} {pass : Pass String} (cleans : pass ∈ adopting.cleanup context resource) :
    pass = Reconcile.connect context (adopting.token resource.spec)
        resource.metadata.spokenKey.namespace >>= fun session =>
      adopting.cleanUp session (Cleanup.plan (adopting.footingOf resource).id
        (adopting.footingOf resource).bound (adopting.footingOf resource).initial) := by
  unfold cleanup at cleans
  dsimp only at cleans
  split at cleans
  · cases cleans
  · exact (Option.some.inj cleans).symm

/-- To deal with the remote object of a resource takes a session, and requests to the remote server. -/
theorem Adopting.cleanup_permitted {kind : Kind} {adopting : Adopting kind} {allowed : Effect → Prop}
    {context : Context} {resource : Resource kind}
    (connects : Asks allowed (Reconcile.connect context (adopting.token resource.spec)
      resource.metadata.spokenKey.namespace))
    (remote : ∀ session request, allowed (.remote session request)) :
    ∀ pass ∈ adopting.cleanup context resource, Asks allowed pass := by
  intro pass member
  obtain rfl := Adopting.eq_of_cleanup member
  refine .bind connects fun session => ?_
  exact cleanUp_asks (fun _ _ _ => remote _ _) (fun _ _ => remote _ _) (fun _ _ => remote _ _)
    fun _ _ => remote _ _

/-! ## The status of a resource, and its remote object -/

namespace Reconcile

/-- Requests of this sort are enough to keep the status of a resource and to tell about it. -/
structure Upkeep (allowed : Effect → Prop) (kind : Kind) (key : ObjectKey) : Prop where
  reads : allowed (.read kind key)
  writes : ∀ revision status, allowed (.writeStatus kind key revision status)
  waits : ∀ time, allowed (.pause time)
  tells : ∀ event, allowed (.publish event)

variable {allowed : Effect → Prop} {kind : Kind} {context : Context} {resource : Resource kind}

theorem Upkeep.updateStatus {change : kind.Status → kind.Status} {key : ObjectKey}
    (upkeep : Upkeep allowed kind key) : Asks allowed (updateStatus context kind key change) :=
  updateStatus_asks upkeep.reads upkeep.writes upkeep.waits

theorem Upkeep.finish {α : Type} {converge : Staged α} {succeed : α → Pass Action}
    (upkeep : Upkeep allowed kind resource.metadata.spokenKey) (converges : Asks allowed converge)
    (succeeds : ∀ outcome, Asks allowed (succeed outcome)) :
    Asks allowed (finish context resource converge succeed) := by
  refine .bind (.outcome converges) fun outcome => ?_
  cases outcome with
  | ok outcome => exact succeeds outcome
  | error stopped =>
      refine .doIf (announce_asks upkeep.tells _ _ _ _ _) fun _ => ?_
      exact .bind (recordFailure_asks upkeep.reads upkeep.writes upkeep.waits) fun _ => .throw

end Reconcile

namespace Adopting

open Reconcile

variable {allowed : Effect → Prop} {kind : Kind} {adopting : Adopting kind} {context : Context}
  {session : Remote.Session} {resource : Resource kind}

theorem recordRemote_asks {id : UInt32} {snapshot : Option adopting.Snapshot} {reason : String}
    (upkeep : Upkeep allowed kind resource.metadata.spokenKey) :
    Asks allowed (adopting.recordRemote context resource id snapshot reason) :=
  .bind upkeep.updateStatus fun _ => announce_asks upkeep.tells _ _ _ _ _

theorem findRemote_asks (upkeep : Upkeep allowed kind resource.metadata.spokenKey)
    (lists : allowed (.remote session (.list adopting.collection)))
    (gets : ∀ id, allowed (.remote session (.get adopting.collection id))) :
    Asks allowed (adopting.findRemote context session resource) := by
  have adopts : Asks allowed (adopting.adopt context session resource) := by
    refine .bind ⟨lists, fun _ => trivial⟩ fun objects => ?_
    dsimp only
    split
    · exact .pure
    · exact .bind (recordRemote_asks upkeep) fun _ => .pure
  unfold findRemote
  dsimp only
  split
  · exact .bind (.staged ⟨gets _, fun _ => trivial⟩) fun _ => .pure
  · split
    · exact .bind (.staged adopts) fun _ => .pure
    · exact .pure

theorem write_asks {existing : Option adopting.collection.Object}
    {payload : adopting.collection.Payload}
    (upkeep : Upkeep allowed kind resource.metadata.spokenKey)
    (updates : ∀ id, allowed (.remote session (.update adopting.collection id payload)))
    (creates : allowed (.remote session (.create adopting.collection payload))) :
    Asks allowed (adopting.write context session resource existing payload) := by
  cases existing with
  | some remote => exact ⟨updates _, fun _ => trivial⟩
  | none =>
      exact .bind ⟨creates, fun _ => trivial⟩ fun _ =>
        .bind (recordRemote_asks upkeep) fun _ => .pure

end Adopting

end ProxyOperator
