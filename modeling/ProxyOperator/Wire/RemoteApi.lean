import ProxyOperator.Remote.Request
import ProxyOperator.Wire.Operation
import ProxyOperator.Wire.Status
/-!
Requests to remote servers, as they are sent. Any status of success will do; every other response is a
failure that carries its status and its body.
-/
namespace ProxyOperator

namespace Wire

namespace RemoteApi

/-- The address of a server, without slashes at its end. -/
def address (endpoint : String) : String :=
  String.ofList (endpoint.toList.reverse.dropWhile (· = '/')).reverse

def send (server : Server) (method : Method) (path : String) (content : Content) :
    Exchange String := ExceptT.mk do
  match ← (Operation.send ⟨server, method, path, [], content⟩).ask with
  | .error reason => return .error (.transport reason)
  | .ok response =>
      if Status.isSuccess response.status then return .ok response.body
      else return .error (.remote method.name path response.status response.body)

def read {α : Type} (codec : Codec α) (body : String) : Exchange α :=
  ExceptT.mk (pure (codec.ofText body).orFail)

/-- Set up a session. Nothing is sent for it, but there must be an endpoint. -/
def connect (session : Remote.Session) : Except Failure Unit :=
  if session.endpoint.isEmpty then .error (.credential "token endpoint is empty") else .ok ()

def parts (material : Remote.Material) : List Part :=
  [⟨"certificate", "fullchain.pem", material.certificate⟩,
    ⟨"certificate_key", "privkey.pem", material.key⟩] ++
  (material.chain.map fun chain => ⟨"intermediate_certificate", "chain.pem", chain⟩).toList

def content : Remote.Request → Content
  | .create collection payload => .json (collection.payloadCodec.encode payload)
  | .update collection _ payload => .json (collection.payloadCodec.encode payload)
  | .upload _ material => .form (parts material)
  | _ => .nothing

/-- Read the answer to a request from the body of its response. Where nothing is to be answered the body
does not matter. -/
def readResult : (request : Remote.Request) → String → Exchange request.Result
  | .list collection, body => read (.list collection.objectCodec) body
  | .get collection _, body => read collection.objectCodec body
  | .create collection _, body => read collection.objectCodec body
  | .update collection _ _, body => read collection.objectCodec body
  | .delete _ _, _ => pure ()
  | .enable _ _, _ => pure ()
  | .disable _ _, _ => pure ()
  | .upload _ _, _ => pure ()

def ask (session : Remote.Session) (request : Remote.Request) : Exchange request.Result := do
  let server := Server.remote (address session.endpoint) (some session.bearer)
  readResult request (← send server request.method request.path (content request))

def requestToken (endpoint identity secret : String) : Exchange Remote.Grant := do
  let login := Json.object [("identity", .string identity), ("secret", .string secret)]
  let server := Server.remote (address endpoint) none
  read Remote.Grant.codec (← send server .post "/api/tokens" (.json login))

end RemoteApi

end Wire

end ProxyOperator
