import ProxyOperator.Remote.AccessList
import ProxyOperator.Remote.Certificate
import ProxyOperator.Remote.Stream
import ProxyOperator.Wire.Method
/-!
What can be asked of the remote server. It keeps four collections of objects; each object has an id and
is created and replaced by a body of its own type.
-/
namespace ProxyOperator

namespace Remote

inductive Collection where
  | proxyHosts
  | certificates
  | streams
  | accessLists
  deriving DecidableEq, Repr, Inhabited

namespace Collection

def all : List Collection := [.proxyHosts, .certificates, .streams, .accessLists]

@[reducible] def Object : Collection → Type
  | .proxyHosts => Host
  | .certificates => Certificate
  | .streams => Stream
  | .accessLists => AccessList

/-- What is sent to create or replace an object. -/
@[reducible] def Payload : Collection → Type
  | .proxyHosts => Host.Payload
  | .certificates => Certificate.Payload
  | .streams => Stream.Payload
  | .accessLists => AccessList.Payload

def objectCodec : (collection : Collection) → Codec collection.Object
  | .proxyHosts => Host.codec
  | .certificates => Certificate.codec
  | .streams => Stream.codec
  | .accessLists => AccessList.codec

def payloadCodec : (collection : Collection) → Codec collection.Payload
  | .proxyHosts => Host.Payload.codec
  | .certificates => Certificate.Payload.codec
  | .streams => Stream.Payload.codec
  | .accessLists => AccessList.Payload.codec

def idOf : (collection : Collection) → collection.Object → UInt32
  | .proxyHosts, host => host.id
  | .certificates, certificate => certificate.id
  | .streams, stream => stream.id
  | .accessLists, list => list.id

def singular : Collection → String
  | .proxyHosts => "proxy_host"
  | .certificates => "certificate"
  | .streams => "stream"
  | .accessLists => "access_list"

def plural (collection : Collection) : String := collection.singular ++ "s"

def path : Collection → String
  | .proxyHosts => "/api/nginx/proxy-hosts"
  | .certificates => "/api/nginx/certificates"
  | .streams => "/api/nginx/streams"
  | .accessLists => "/api/nginx/access-lists"

def objectPath (collection : Collection) (id : UInt32) : String :=
  collection.path ++ "/" ++ toString id.toNat

end Collection

inductive Request where
  | list (collection : Collection)
  | get (collection : Collection) (id : UInt32)
  | create (collection : Collection) (payload : collection.Payload)
  | update (collection : Collection) (id : UInt32) (payload : collection.Payload)
  | delete (collection : Collection) (id : UInt32)
  | enable (collection : Collection) (id : UInt32)
  | disable (collection : Collection) (id : UInt32)
  | upload (id : UInt32) (material : Material)

namespace Request

/-- What a request is answered with. -/
@[reducible] def Result : Request → Type
  | .list collection => List collection.Object
  | .get collection _ => collection.Object
  | .create collection _ => collection.Object
  | .update collection _ _ => collection.Object
  | .delete _ _ => Unit
  | .enable _ _ => Unit
  | .disable _ _ => Unit
  | .upload _ _ => Unit

def name : Request → String
  | .list collection => "list_" ++ collection.plural
  | .get collection _ => "get_" ++ collection.singular
  | .create collection _ => "create_" ++ collection.singular
  | .update collection _ _ => "update_" ++ collection.singular
  | .delete collection _ => "delete_" ++ collection.singular
  | .enable collection _ => "enable_" ++ collection.singular
  | .disable collection _ => "disable_" ++ collection.singular
  | .upload _ _ => "upload_certificate"

def method : Request → Method
  | .list _ => .get
  | .get _ _ => .get
  | .create _ _ => .post
  | .update _ _ _ => .put
  | .delete _ _ => .delete
  | .enable _ _ => .post
  | .disable _ _ => .post
  | .upload _ _ => .post

def path : Request → String
  | .list collection => collection.path
  | .get collection id => collection.objectPath id
  | .create collection _ => collection.path
  | .update collection id _ => collection.objectPath id
  | .delete collection id => collection.objectPath id
  | .enable collection id => collection.objectPath id ++ "/enable"
  | .disable collection id => collection.objectPath id ++ "/disable"
  | .upload id _ => Collection.certificates.objectPath id ++ "/upload"

end Request

/-- An authenticated way to the remote server. -/
structure Session where
  endpoint : String
  bearer : String
  deriving DecidableEq, Repr, Inhabited

end Remote

end ProxyOperator
