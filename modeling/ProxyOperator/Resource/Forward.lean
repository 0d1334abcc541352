import ProxyOperator.Resource.Reference
/-!
Where a declaration forwards traffic to: a list of backends, or a Service of the cluster.
-/
namespace ProxyOperator

inductive Scheme where
  | http
  | https
  deriving DecidableEq, Repr, Inhabited

namespace Scheme

def name : Scheme → String
  | .http => "http"
  | .https => "https"

def codec : Codec Scheme := .choice [("http", .http), ("https", .https)] name

end Scheme

structure Backend where
  host : String
  port : UInt16
  deriving DecidableEq, Repr, Inhabited

namespace Backend

def record : Record Backend Backend :=
  Backend.mk
    <$> .required "host" (·.host) .string
    <*> .required "port" (·.port) .uint16

def codec : Codec Backend := record.codec .strict

def address (backend : Backend) : String := backend.host ++ ":" ++ toString backend.port.toNat

end Backend

structure ServiceRef where
  name : String
  «namespace» : Option String
  /-- The port of the Service; without one a port is picked by name. -/
  port : Option UInt16
  deriving DecidableEq, Repr, Inhabited

namespace ServiceRef

def resolve (reference : ServiceRef) (own : String) : ObjectKey :=
  ⟨reference.namespace.getD own, reference.name⟩

def record : Record ServiceRef ServiceRef :=
  ServiceRef.mk
    <$> .required "name" (·.name) .string
    <*> .optional "namespace" (·.namespace) .string
    <*> .optional "port" (·.port) .uint16

def codec : Codec ServiceRef := record.codec .strict

end ServiceRef

/-- A forward target: either of `hosts` and `service`, and not both. -/
structure Forward where
  scheme : Scheme
  hosts : Option (List Backend)
  service : Option ServiceRef
  advancedConfig : Option String
  deriving DecidableEq, Repr, Inhabited

namespace Forward

def toHost (host : String) (port : UInt16) : Forward := ⟨.http, some [⟨host, port⟩], none, none⟩

def toService (name : String) : Forward := ⟨.http, none, some ⟨name, none, none⟩, none⟩

def record : Record Forward Forward :=
  Forward.mk
    <$> .defaulted "scheme" (·.scheme) Scheme.codec .http
    <*> .optional "hosts" (·.hosts) (.list Backend.codec)
    <*> .optional "service" (·.service) ServiceRef.codec
    <*> .optional "advancedConfig" (·.advancedConfig) .string

def codec : Codec Forward := record.codec .strict

end Forward

end ProxyOperator
