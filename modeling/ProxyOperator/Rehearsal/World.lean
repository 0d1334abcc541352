import ProxyOperator.Effect
import ProxyOperator.Json.Pointer
/-!
A world in memory in which passes are rehearsed. It holds the objects of a cluster and of a remote
server as one JSON tree, and does to it what the two would do. Any call can be made to fail, or to find
that somebody else has been at work.
-/
namespace ProxyOperator

namespace Rehearsal

/-- What happens in the way of a call. -/
structure Fault where
  edits : List (Pointer × Json)
  /-- How the call fails, if it does. -/
  failure : Option Failure
  /-- Whether the call fails only after it has had its effect. -/
  afterwards : Bool
  deriving Inhabited

structure World where
  tree : Json
  /-- For each kind of call, what happens in the way of the next ones. -/
  faults : Dictionary (List (Option Fault))
  /-- The calls made, the last one first. -/
  calls : List Effect

abbrev Acting (α : Type) := StateM World α

/-! ## Objects -/

def metadataText (object : Json) (name : String) : String :=
  ((object.get? "metadata").bind (·.get? name) |>.bind Json.text?).getD ""

def keyOf (object : Json) : ObjectKey :=
  ⟨metadataText object "namespace", metadataText object "name"⟩

def isHeld (object : Json) : Bool :=
  !(((object.get? "metadata").bind (·.get? "finalizers")).map Json.items |>.getD []).isEmpty

def isDeleting (object : Json) : Bool :=
  ((object.get? "metadata").bind (·.get? "deletionTimestamp")).any fun value => !value.isNull

def putMetadata (object : Json) (name : String) (value : Json) : Json :=
  object.put "metadata" (((object.get? "metadata").getD .null).put name value)

def idOf? (object : Json) : Option Int :=
  match object.get? "id" with
  | some (.number (.whole id)) => some id
  | _ => none

def readAs {α : Type} (codec : Codec α) (value : Json) : Except Failure α :=
  (codec.decode value.normalize).orFail

def changeFirst (test : Json → Bool) (change : Json → Option Json) : List Json → List Json
  | [] => []
  | item :: rest =>
      if test item then (change item).toList ++ rest else item :: changeFirst test change rest

/-! ## Lists of the world -/

namespace World

def objects (world : World) (kind : String) : List Json :=
  (world.tree.get? kind).map Json.items |>.getD []

def object? (world : World) (kind : String) (key : ObjectKey) : Option Json :=
  (world.objects kind).find? (keyOf · = key)

def setObjects (world : World) (kind : String) (objects : List Json) : World :=
  { world with tree := world.tree.put kind (.array objects) }

/-- Change or erase the object of a kind and a key. -/
def changeObject (world : World) (kind : String) (key : ObjectKey) (change : Json → Option Json) :
    World :=
  world.setObjects kind (changeFirst (keyOf · = key) change (world.objects kind))

def server (world : World) : Json := (world.tree.get? "remote").getD .null

def remoteObjects (world : World) (collection : Remote.Collection) : List Json :=
  (world.server.get? collection.plural).map Json.items |>.getD []

def remoteObject? (world : World) (collection : Remote.Collection) (id : UInt32) : Option Json :=
  (world.remoteObjects collection).find? (idOf? · = some (id.toNat : Int))

def setRemoteObjects (world : World) (collection : Remote.Collection) (objects : List Json) :
    World :=
  let server := world.server.put collection.plural (.array objects)
  { world with tree := world.tree.put "remote" server }

/-- Change or erase the remote object of an id. -/
def changeRemoteObject (world : World) (collection : Remote.Collection) (id : UInt32)
    (change : Json → Option Json) : World :=
  world.setRemoteObjects collection <|
    changeFirst (idOf? · = some (id.toNat : Int)) change (world.remoteObjects collection)

def serverSetting (world : World) (name : String) : Json :=
  ((world.server.get? "settings").bind (·.get? name)).getD .null

end World

/-! ## Calls -/

def kindWord : Kind → String
  | .proxyHost => "proxy_host"
  | .stream => "stream"
  | .token => "token"
  | .letsEncryptCertificate => "letsencrypt_certificate"
  | .customCertificate => "custom_certificate"
  | .accessList => "access_list"

/-- The name under which what happens in the way of a call is filed. -/
def callName : Effect → String
  | .read kind _ => "kube.get_" ++ kindWord kind
  | .list kind _ => "kube.list_" ++ kindWord kind ++ "s"
  | .writeStatus _ _ _ _ => "kube.patch_status"
  | .addFinalizer _ _ => "add_finalizer"
  | .removeFinalizer _ _ => "remove_finalizer"
  | .secret _ => "kube.get_secret"
  | .service _ => "cluster.get_service"
  | .pods _ _ => "cluster.list_pods"
  | .node _ => "cluster.get_node"
  | .connect _ => "connect"
  | .requestToken _ _ _ => "request_token"
  | .remote _ request => request.name
  | .publish _ => "publish"
  | .pause _ => "pause"

/-- Whether a call is worth recording. Reads of single objects are not. -/
def isRecorded : Effect → Bool
  | .read _ _ => false
  | .list _ _ => false
  | .secret _ => false
  | .service _ => false
  | .node _ => false
  | .pause _ => false
  | _ => true

def recordCall (effect : Effect) : Acting Unit :=
  modify fun world =>
    if isRecorded effect then { world with calls := effect :: world.calls } else world

/-- Take what happens in the way of a call of a name. -/
def takeFault (name : String) : Acting (Option Fault) := do
  let world ← get
  match world.faults.get? name with
  | none => return none
  | some [] => return none
  | some (fault :: rest) =>
      set { world with faults := world.faults.insert name rest }
      return fault

/-- Begin a call: record it and let happen what is in its way. The answer says how the call is to
fail, if it is, and whether it has its effect before. -/
def begin (effect : Effect) : Acting (Option (Failure × Bool)) := do
  recordCall effect
  match ← takeFault (callName effect) with
  | none => return none
  | some fault =>
      modify fun world =>
        { world with
          tree := fault.edits.foldl (fun tree edit => tree.setAt edit.1 edit.2) world.tree }
      return fault.failure.map fun failure => (failure, fault.afterwards)

/-- Make a call. A failure of the call itself counts more than one that is to come afterwards. -/
def make {α : Type} (effect : Effect) (act : Acting (Except Failure α)) :
    Acting (Except Failure α) := do
  match ← begin effect with
  | none => act
  | some (failure, false) => return .error failure
  | some (failure, true) =>
      match ← act with
      | .ok _ => return .error failure
      | .error own => return .error own

/-- Set up a session. That has no effect, so there is nothing after which it could fail. -/
def connect (session : Remote.Session) : Acting (Except Failure Unit) := do
  match ← begin (.connect session) with
  | some (failure, false) => return .error failure
  | _ => return .ok ()

/-! ## The cluster -/

def readObject {α : Type} (codec : Codec α) (kind : String) (key : ObjectKey) :
    Acting (Except Failure (Option α)) := do
  match (← get).object? kind key with
  | none => return .ok none
  | some object => return some <$> readAs codec object

def readObjects {α : Type} (codec : Codec α) (kind : String) (test : Json → Bool) :
    Acting (Except Failure (List α)) := do
  return (((← get).objects kind).filter test).mapM (readAs codec)

def isSelected (selector : String) (object : Json) : Bool :=
  let labels := ((object.get? "metadata").bind (·.get? "labels")).getD .null
  (selector.splitOn ",").all fun label =>
    match label.splitOn "=" with
    | name :: value => (labels.get? name).bind Json.text? = some ("=".intercalate value)
    | [] => true

def missing : Failure := .cluster ⟨"Failure", "not found", "NotFound", 404⟩

def nextRevision (revision : String) : String := toString (revision.toNat?.getD 0 + 1)

def writeStatus (kind : Kind) (key : ObjectKey) (revision : Option String) (status : kind.Status) :
    Acting (Except Failure Unit) := do
  let world ← get
  match world.object? kind.name key with
  | none => return .error missing
  | some object =>
      let stored := ((object.get? "metadata").bind (·.get? "resourceVersion")).bind Json.text?
      if revision.isSome ∧ revision ≠ stored then return .error (.conflict key.text)
      else
        let marked :=
          match stored with
          | some stored => putMetadata object "resourceVersion" (.string (nextRevision stored))
          | none => object
        let written := marked.put "status" (kind.statusCodec.encode status)
        set (world.changeObject kind.name key fun _ => some written)
        return .ok ()

/-- Add or remove the finalizer of the operator. An object whose deletion was asked for goes with its
last finalizer. -/
def setFinalizer (kind : Kind) (key : ObjectKey) (present : Bool) : Acting (Except Failure Unit) := do
  let own := Json.string finalizer
  let change (object : Json) : Option Json :=
    let old := ((object.get? "metadata").bind (·.get? "finalizers")).map Json.items |>.getD []
    let others := old.filter (·.text? ≠ some finalizer)
    let held := putMetadata object "finalizers" (.array (if present then others ++ [own] else others))
    if !isHeld held && isDeleting held then none else some held
  modify fun world => world.changeObject kind.name key change
  return .ok ()

/-! ## The remote server -/

def notFound (request : Remote.Request) : Failure :=
  .remote request.method.name request.path 404 "\x7b\"error\":\"not found\"\x7d"

def overlay (object cover : Json) : Json :=
  cover.members.foldl (fun object entry => object.put entry.1 entry.2) object

/-- What a new object has before anything is written into it. -/
def blank : Remote.Collection → Json
  | .proxyHosts => enabledObject
  | .streams => enabledObject
  | .certificates => .object [("expires_on", .string "2030-01-01 00:00:00")]
  | .accessLists => .object []
where
  enabledObject :=
    .object [("enabled", .bool true), ("meta", .object [("nginx_online", .bool true)])]

/-- Show or hide the configuration outside the server block of a host, as the server does. -/
def unscope (world : World) (collection : Remote.Collection) (object : Json) : Json :=
  match collection with
  | .proxyHosts =>
      match world.serverSetting "unscoped" with
      | .bool true =>
          if (object.get? "unscoped_config").isNone then object.put "unscoped_config" .null
          else object
      | _ => object.without "unscoped_config"
  | _ => object

/-- Write a body, and what the server is set to add, over an object. -/
def written (world : World) (collection : Remote.Collection) (occasion : String)
    (payload : collection.Payload) (object : Json) : Json :=
  let added := (world.serverSetting occasion).get? collection.plural
  let filled := overlay object (collection.payloadCodec.encode payload)
  unscope world collection (overlay filled (added.getD .null))

/-- The id after the greatest one. -/
def nextId (objects : List Json) : Nat :=
  (objects.filterMap idOf?).foldl (fun greatest id => max greatest id.toNat) 0 + 1

def changeRemote (request : Remote.Request) (collection : Remote.Collection) (id : UInt32)
    (change : Json → Option Json) : Acting (Except Failure Unit) := do
  let world ← get
  if (world.remoteObject? collection id).isNone then return .error (notFound request)
  else
    set (world.changeRemoteObject collection id change)
    return .ok ()

/-- What the remote server does on a request. -/
def serve : (request : Remote.Request) → Acting (Except Failure request.Result)
  | .list collection => do
      return ((← get).remoteObjects collection).mapM (readAs collection.objectCodec)
  | .get collection id => do
      match (← get).remoteObject? collection id with
      | none => return .error (notFound (.get collection id))
      | some object => return readAs collection.objectCodec object
  | .create collection payload => do
      let world ← get
      let objects := world.remoteObjects collection
      let fresh := (blank collection).put "id" (.natural (nextId objects))
      let object := written world collection "create" payload fresh
      set (world.setRemoteObjects collection (objects ++ [object]))
      return readAs collection.objectCodec object
  | .update collection id payload => do
      let world ← get
      match world.remoteObject? collection id with
      | none => return .error (notFound (.update collection id payload))
      | some object =>
          let object := written world collection "update" payload object
          set (world.changeRemoteObject collection id fun _ => some object)
          return readAs collection.objectCodec object
  | .delete collection id => changeRemote (.delete collection id) collection id fun _ => none
  | .enable collection id =>
      changeRemote (.enable collection id) collection id fun object =>
        some (object.put "enabled" (.bool true))
  | .disable collection id =>
      changeRemote (.disable collection id) collection id fun object =>
        some (object.put "enabled" (.bool false))
  | .upload id material => changeRemote (.upload id material) .certificates id some

/-! ## Answers -/

def answer : (effect : Effect) → Acting effect.Answer
  | .read kind key => make (.read kind key) (readObject (Resource.codec kind) kind.name key)
  | .list kind scope =>
      make (.list kind scope) <|
        readObjects (Resource.codec kind) kind.name fun object =>
          scope.all (· = (keyOf object).namespace)
  | .writeStatus kind key revision status =>
      make (.writeStatus kind key revision status) (writeStatus kind key revision status)
  | .addFinalizer kind key => make (.addFinalizer kind key) (setFinalizer kind key true)
  | .removeFinalizer kind key => make (.removeFinalizer kind key) (setFinalizer kind key false)
  | .secret key => make (.secret key) (readObject Secret.codec "Secret" key)
  | .service key => make (.service key) (readObject Service.codec "Service" key)
  | .pods scope selector =>
      make (.pods scope selector) <|
        readObjects Pod.codec "Pod" fun object =>
          (keyOf object).namespace = scope && isSelected selector object
  | .node name => make (.node name) (readObject Node.codec "Node" ⟨"", name⟩)
  | .connect session => connect session
  | .requestToken endpoint identity secret =>
      make (.requestToken endpoint identity secret) do
        return readAs Remote.Grant.codec (((← get).server.get? "grant").getD .null)
  | .remote session request => make (.remote session request) (serve request)
  | .publish event => recordCall (.publish event)
  | .pause _ => return ()

def perform {α : Type} (pass : Pass α) : Acting (Except Failure α) := pass.run.run answer

end Rehearsal

end ProxyOperator
