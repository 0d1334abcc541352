import ProxyOperator.Cluster.Announcement
import ProxyOperator.Cluster.Listing
import ProxyOperator.Cluster.Node
import ProxyOperator.Cluster.Pod
import ProxyOperator.Cluster.Secret
import ProxyOperator.Cluster.Service
import ProxyOperator.Encoding.Form
import ProxyOperator.Wire.Operation
import ProxyOperator.Wire.Status
/-!
Requests to the API of the cluster, as they are sent. Errors that the API reports are told apart from
answers that cannot be had or understood.
-/
namespace ProxyOperator

namespace Wire

namespace ClusterApi

/-- The name under which the operator manages fields and reports events. -/
def manager : String := "npm-operator"

/-! ## Responses -/

def errorRecord : Record ApiError ApiError :=
  ApiError.mk
    <$> .required "status" (·.status) .string
    <*> .defaulted "message" (·.message) .string ""
    <*> .defaulted "reason" (·.reason) .string ""
    <*> .required "code" (·.code) (.wholeWithin 0 65535 Int.ofNat Int.toNat)

/-- The error that a response reports. Where its body is no report, the body is quoted. -/
def errorOf (response : Response) : ApiError :=
  match (errorRecord.codec .strict).ofText response.body with
  | .ok error => error
  | .error _ =>
      { status := Status.text response.status
        message := Quoted.quote response.body
        reason := "Failed to parse error data"
        code := response.status }

def send (method : Method) (path : String) (query : List (String × String)) (content : Content) :
    Exchange String := ExceptT.mk do
  match ← (Operation.send ⟨.cluster, method, path, query, content⟩).ask with
  | .error reason => return .error (.clusterUnreachable reason)
  | .ok response =>
      if Status.isError response.status then return .error (.cluster (errorOf response))
      else return .ok response.body

def read {α : Type} (codec : Codec α) (body : String) : Exchange α :=
  match codec.ofText body with
  | .ok value => pure value
  | .error fault => throw (.clusterUnreachable fault.message)

/-! ## Paths -/

def scope («namespace» : String) : String := "/namespaces/" ++ «namespace»

def resourcesPath (kind : Kind) («namespace» : Option String) : String :=
  "/apis/" ++ apiVersion ++ («namespace».map scope).getD "" ++ "/" ++ kind.plural

def corePath («namespace» : Option String) (sort : String) : String :=
  "/api/v1" ++ («namespace».map scope).getD "" ++ "/" ++ sort

def announcementsPath («namespace» : String) : String :=
  "/apis/events.k8s.io/v1" ++ scope «namespace» ++ "/events"

/-- The path of one object, which must have a name. -/
def objectPath (collection name : String) : Exchange String :=
  if name.isEmpty then throw (.clusterUnreachable "the name of an object is empty")
  else pure (collection ++ "/" ++ name)

/-! ## Reading -/

def get {α : Type} (codec : Codec α) (collection name : String) : Exchange α := do
  read codec (← send .get (← objectPath collection name) [] .nothing)

def find? {α : Type} (codec : Codec α) (collection name : String) : Exchange (Option α) :=
  ExceptT.mk do
    match ← (get codec collection name).run with
    | .ok object => return .ok (some object)
    | .error (.cluster error) =>
        if error.reason = "NotFound" then return .ok none else return .error (.cluster error)
    | .error failure => return .error failure

def list {α : Type} (codec : Codec α) (path : String) (query : List (String × String)) :
    Exchange (List α) := do
  return (← read (Listing.codec codec) (← send .get path query .nothing)).items

def resource? (kind : Kind) (key : ObjectKey) : Exchange (Option (Resource kind)) :=
  find? (Resource.codec kind) (resourcesPath kind key.namespace) key.name

/-! ## Writing -/

/-- Merge changes into a resource, or into a part of it. -/
def merge (kind : Kind) (key : ObjectKey) (part : String) (changes : Json) : Exchange Unit := do
  let path ← objectPath (resourcesPath kind key.namespace) key.name
  let body ← send .patch (path ++ part) [("fieldManager", manager)] (.mergePatch changes)
  let _ ← read (Resource.codec kind) body

/-- The changes that write a status. With a revision they hold only for that revision. -/
def statusChanges (kind : Kind) (revision : Option String) (status : kind.Status) : Json :=
  let guarded := revision.map fun revision =>
    ("metadata", Json.object [("resourceVersion", .string revision)])
  .object (("status", kind.statusCodec.encode status) :: guarded.toList)

/-- Write the status of a resource. An error of conflict means that another writer was first. -/
def writeStatus (kind : Kind) (key : ObjectKey) (revision : Option String) (status : kind.Status) :
    Exchange Unit := ExceptT.mk do
  match ← (merge kind key "/status" (statusChanges kind revision status)).run with
  | .error (.cluster error) =>
      if error.code = 409 then return .error (.conflict key.text)
      else return .error (.cluster error)
  | outcome => return outcome

def finalizersWhen (held : Bool) (finalizers : List String) : List String :=
  if held then finalizers ++ [finalizer] else finalizers.filter (· ≠ finalizer)

/-- Hold a resource back from deletion or release it. Nothing is written if it is so already, or if the
resource is gone. -/
def setHeld (kind : Kind) (key : ObjectKey) (held : Bool) : Exchange Unit := do
  match ← resource? kind key with
  | none => return ()
  | some resource =>
      if resource.isHeld = held then return ()
      else
        let finalizers := finalizersWhen held (resource.metadata.finalizers.getD [])
        merge kind key "" (.object [("metadata", .object [("finalizers", .strings finalizers)])])

end ClusterApi

end Wire

end ProxyOperator
