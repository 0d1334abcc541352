import ProxyOperator.Resource.AccessList
import ProxyOperator.Resource.Certificate
import ProxyOperator.Resource.Metadata
import ProxyOperator.Resource.ProxyHost
import ProxyOperator.Resource.Stream
import ProxyOperator.Resource.Token
/-!
The resources of the operator. There are six kinds, each with a declaration and a status of its own;
what holds for all of them is said once, for a resource of any kind.
-/
namespace ProxyOperator

inductive Kind where
  | proxyHost
  | stream
  | token
  | letsEncryptCertificate
  | customCertificate
  | accessList
  deriving DecidableEq, Repr, Inhabited

namespace Kind

def all : List Kind :=
  [.proxyHost, .stream, .token, .letsEncryptCertificate, .customCertificate, .accessList]

def name : Kind → String
  | .proxyHost => "ProxyHost"
  | .stream => "Stream"
  | .token => "Token"
  | .letsEncryptCertificate => "LetsEncryptCertificate"
  | .customCertificate => "CustomCertificate"
  | .accessList => "AccessList"

def plural : Kind → String
  | .proxyHost => "proxyhosts"
  | .stream => "streams"
  | .token => "tokens"
  | .letsEncryptCertificate => "letsencryptcertificates"
  | .customCertificate => "customcertificates"
  | .accessList => "accesslists"

def ofName? (name : String) : Option Kind := all.find? (·.name = name)

@[reducible] def Spec : Kind → Type
  | .proxyHost => ProxyHost.Spec
  | .stream => Stream.Spec
  | .token => Token.Spec
  | .letsEncryptCertificate => LetsEncryptCertificate.Spec
  | .customCertificate => CustomCertificate.Spec
  | .accessList => AccessList.Spec

@[reducible] def Status : Kind → Type
  | .proxyHost => ProxyHost.Status
  | .stream => Stream.Status
  | .token => Token.Status
  | .letsEncryptCertificate => LetsEncryptCertificate.Status
  | .customCertificate => CustomCertificate.Status
  | .accessList => AccessList.Status

def specCodec : (kind : Kind) → Codec kind.Spec
  | .proxyHost => ProxyHost.Spec.codec
  | .stream => Stream.Spec.codec
  | .token => Token.Spec.codec
  | .letsEncryptCertificate => LetsEncryptCertificate.Spec.codec
  | .customCertificate => CustomCertificate.Spec.codec
  | .accessList => AccessList.Spec.codec

def statusCodec : (kind : Kind) → Codec kind.Status
  | .proxyHost => ProxyHost.Status.codec
  | .stream => Stream.Status.codec
  | .token => Token.Status.codec
  | .letsEncryptCertificate => LetsEncryptCertificate.Status.codec
  | .customCertificate => CustomCertificate.Status.codec
  | .accessList => AccessList.Status.codec

def emptyStatus : (kind : Kind) → kind.Status
  | .proxyHost => (default : ProxyHost.Status)
  | .stream => (default : Stream.Status)
  | .token => (default : Token.Status)
  | .letsEncryptCertificate => (default : LetsEncryptCertificate.Status)
  | .customCertificate => (default : CustomCertificate.Status)
  | .accessList => (default : AccessList.Status)

def conditions : (kind : Kind) → kind.Status → List Condition
  | .proxyHost, status => status.conditions
  | .stream, status => status.conditions
  | .token, status => status.conditions
  | .letsEncryptCertificate, status => status.conditions
  | .customCertificate, status => status.conditions
  | .accessList, status => status.conditions

def mapConditions (change : List Condition → List Condition) : (kind : Kind) → kind.Status → kind.Status
  | .proxyHost, status => { status with conditions := change status.conditions }
  | .stream, status => { status with conditions := change status.conditions }
  | .token, status => { status with conditions := change status.conditions }
  | .letsEncryptCertificate, status => { status with conditions := change status.conditions }
  | .customCertificate, status => { status with conditions := change status.conditions }
  | .accessList, status => { status with conditions := change status.conditions }

end Kind

def groupName : String := "npm.operator.io"

def versionName : String := "v1alpha1"

def apiVersion : String := groupName ++ "/" ++ versionName

/-- The finalizer that holds a resource back until its remote object is dealt with. -/
def finalizer : String := "npm.operator.io/finalizer"

/-- A resource as stored in the cluster. -/
structure Resource (kind : Kind) where
  metadata : Metadata
  spec : kind.Spec
  status : Option kind.Status

abbrev ProxyHost := Resource .proxyHost

abbrev Stream := Resource .stream

abbrev Token := Resource .token

abbrev LetsEncryptCertificate := Resource .letsEncryptCertificate

abbrev CustomCertificate := Resource .customCertificate

abbrev AccessList := Resource .accessList

namespace Resource

variable {kind : Kind}

/-- The members of a resource. Its kind is written but not asked for when it is read. -/
def record (kind : Kind) : Record (Resource kind) (Resource kind) :=
  ((fun _ _ metadata spec status => (⟨metadata, spec, status⟩ : Resource kind))
    <$> .written "apiVersion" (fun _ => .string apiVersion)
    <*> .written "kind" (fun _ => .string kind.name)
    <*> .required "metadata" (·.metadata) Metadata.codec
    <*> .required "spec" (·.spec) kind.specCodec
    <*> .optional "status" (·.status) kind.statusCodec)

/-- A resource written as an array has all three members. -/
def codec (kind : Kind) : Codec (Resource kind) where
  encode := ((record kind).codec .strict).encode
  decode
    | .array values =>
        if values.length < 3 then .error .malformed else (record kind).decode .strict (.array values)
    | value => (record kind).decode .strict value

def key (resource : Resource kind) : ObjectKey := resource.metadata.key

def statusOrEmpty (resource : Resource kind) : kind.Status := resource.status.getD kind.emptyStatus

def isHeld (resource : Resource kind) : Bool := resource.metadata.hasFinalizer finalizer

end Resource

namespace ProxyHost

def remoteId (host : ProxyHost) : Option UInt32 := host.status.bind (·.id)

/-- Whether the remote host was there before. -/
def isBound (host : ProxyHost) : Bool := host.status.any (·.bound)

end ProxyHost

namespace Stream

def remoteId (stream : Stream) : Option UInt32 := stream.status.bind (·.id)

/-- Whether the remote stream was there before. -/
def isBound (stream : Stream) : Bool := stream.status.any (·.bound)

end Stream

namespace Token

def usableBearer? (token : Token) (now : Instant) : Option String :=
  token.status.bind (·.usableBearer? now)

end Token

end ProxyOperator
