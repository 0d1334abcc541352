import ProxyOperator.Resource.Condition
import ProxyOperator.Resource.Domain
import ProxyOperator.Resource.Forward
/-!
Proxy hosts: the domains a virtual host of the remote server answers for, where their traffic goes, and
how it is secured.
-/
namespace ProxyOperator

namespace ProxyHost

/-- How a host is secured. Of several certificate sources the first counts, in this order: a
LetsEncryptCertificate, a CustomCertificate, a remote id, an automatic request. -/
structure Ssl where
  certificateId : Option UInt32
  customCertificate : Option ResourceRef
  letsEncryptCertificate : Option ResourceRef
  /-- Find a certificate for the host's domains, or request one. -/
  autoRequest : Bool
  email : Option String
  forced : Bool
  http2 : Bool
  hsts : Bool
  hstsSubdomains : Bool
  deriving DecidableEq, Repr, Inhabited

namespace Ssl

def record : Record Ssl Ssl :=
  Ssl.mk
    <$> .optional "certificateId" (·.certificateId) .uint32
    <*> .optional "customCertificate" (·.customCertificate) ResourceRef.codec
    <*> .optional "letsencryptCertificate" (·.letsEncryptCertificate) ResourceRef.codec
    <*> .defaulted "autoCertificateRequest" (·.autoRequest) .bool false
    <*> .optional "letsencryptEmail" (·.email) .string
    <*> .defaulted "sslForced" (·.forced) .bool false
    <*> .defaulted "http2Support" (·.http2) .bool false
    <*> .defaulted "hstsEnabled" (·.hsts) .bool false
    <*> .defaulted "hstsSubdomains" (·.hstsSubdomains) .bool false

def codec : Codec Ssl := record.codec .strict

end Ssl

/-- The access list of a host: a remote id, or an AccessList resource. -/
structure AccessRef where
  id : Option UInt32
  name : Option String
  «namespace» : Option String
  deriving DecidableEq, Repr, Inhabited

namespace AccessRef

def record : Record AccessRef AccessRef :=
  AccessRef.mk
    <$> .optional "id" (·.id) .uint32
    <*> .optional "name" (·.name) .string
    <*> .optional "namespace" (·.namespace) .string

def codec : Codec AccessRef := record.codec .strict

end AccessRef

structure Location where
  path : String
  forward : Forward
  deriving DecidableEq, Repr, Inhabited

namespace Location

def record : Record Location Location :=
  Location.mk
    <$> .required "path" (·.path) .string
    <*> .required "forward" (·.forward) Forward.codec

def codec : Codec Location := record.codec .strict

end Location

structure Spec where
  domains : List String
  forward : Forward
  ssl : Option Ssl
  accessList : Option AccessRef
  caching : Bool
  blockExploits : Bool
  websockets : Bool
  locations : List Location
  advancedConfig : Option String
  /-- Adopt a remote host of the same domains instead of creating one. -/
  bindExisting : Bool
  token : Option ResourceRef
  deriving DecidableEq, Repr, Inhabited

namespace Spec

def record : Record Spec Spec :=
  Spec.mk
    <$> .required "domainNames" (·.domains) (.list .string)
    <*> .required "forward" (·.forward) Forward.codec
    <*> .optional "ssl" (·.ssl) Ssl.codec
    <*> .optional "accessList" (·.accessList) AccessRef.codec
    <*> .defaulted "cachingEnabled" (·.caching) .bool false
    <*> .defaulted "blockExploits" (·.blockExploits) .bool false
    <*> .defaulted "allowWebsocketUpgrade" (·.websockets) .bool false
    <*> .listed "locations" (·.locations) Location.codec
    <*> .optional "advancedConfig" (·.advancedConfig) .string
    <*> .defaulted "bindExisting" (·.bindExisting) .bool false
    <*> .optional "token" (·.token) ResourceRef.codec

def codec : Codec Spec := record.codec .strict

def check (spec : Spec) : Except Problem Unit := do
  Domain.check spec.domains
  for location in spec.locations do
    unless location.path.startsWith "/" do
      throw (.locationPath location.path)
  match spec.accessList with
  | some list => if list.id.isSome ∧ list.name.isSome then throw .twoAccessLists
  | none => return

end Spec

structure LocationSnapshot where
  path : String
  scheme : String
  host : String
  port : UInt16
  advancedConfig : String
  deriving DecidableEq, Repr, Inhabited

namespace LocationSnapshot

def record : Record LocationSnapshot LocationSnapshot :=
  LocationSnapshot.mk
    <$> .required "path" (·.path) .string
    <*> .required "forwardScheme" (·.scheme) .string
    <*> .required "forwardHost" (·.host) .string
    <*> .required "forwardPort" (·.port) .uint16
    <*> .defaulted "advancedConfig" (·.advancedConfig) .string ""

def codec : Codec LocationSnapshot := record.codec .strict

end LocationSnapshot

/-- What a remote host looked like when it was adopted. Id 0 stands for none. -/
structure Snapshot where
  domains : List String
  scheme : String
  host : String
  port : UInt16
  accessListId : UInt32
  certificateId : UInt32
  sslForced : Bool
  http2 : Bool
  hsts : Bool
  hstsSubdomains : Bool
  caching : Bool
  blockExploits : Bool
  websockets : Bool
  advancedConfig : String
  /-- Configuration outside the server block, on servers that have it. -/
  unscopedConfig : Option String
  enabled : Bool
  locations : List LocationSnapshot
  deriving DecidableEq, Repr, Inhabited

namespace Snapshot

def record : Record Snapshot Snapshot :=
  Snapshot.mk
    <$> .required "domainNames" (·.domains) (.list .string)
    <*> .required "forwardScheme" (·.scheme) .string
    <*> .required "forwardHost" (·.host) .string
    <*> .required "forwardPort" (·.port) .uint16
    <*> .required "accessListId" (·.accessListId) .uint32
    <*> .required "certificateId" (·.certificateId) .uint32
    <*> .required "sslForced" (·.sslForced) .bool
    <*> .required "http2Support" (·.http2) .bool
    <*> .required "hstsEnabled" (·.hsts) .bool
    <*> .required "hstsSubdomains" (·.hstsSubdomains) .bool
    <*> .required "cachingEnabled" (·.caching) .bool
    <*> .required "blockExploits" (·.blockExploits) .bool
    <*> .required "allowWebsocketUpgrade" (·.websockets) .bool
    <*> .required "advancedConfig" (·.advancedConfig) .string
    <*> .optional "unscopedConfig" (·.unscopedConfig) .string
    <*> .required "enabled" (·.enabled) .bool
    <*> .defaulted "locations" (·.locations) (.list LocationSnapshot.codec) []

def codec : Codec Snapshot := record.codec .strict

end Snapshot

structure Status where
  /-- The remote id; once set it stays. -/
  id : Option UInt32
  /-- Whether the remote host was there before. -/
  bound : Bool
  /-- What the remote host looked like when it was adopted. -/
  initial : Option Snapshot
  online : Bool
  certificateId : Option UInt32
  certificateBound : Bool
  /-- The generation last converged. -/
  observedGeneration : Option Int64
  conditions : List Condition
  deriving DecidableEq, Inhabited

namespace Status

def record : Record Status Status :=
  Status.mk
    <$> .optional "id" (·.id) .uint32
    <*> .defaulted "bound" (·.bound) .bool false
    <*> .optional "initialConfiguration" (·.initial) Snapshot.codec
    <*> .defaulted "online" (·.online) .bool false
    <*> .optional "certificateId" (·.certificateId) .uint32
    <*> .defaulted "certificateBound" (·.certificateBound) .bool false
    <*> .optional "observedGeneration" (·.observedGeneration) .int64
    <*> .listed "conditions" (·.conditions) Condition.codec

def codec : Codec Status := record.codec .strict

end Status

end ProxyHost

end ProxyOperator
