import ProxyOperator.Remote.Loose
/-!
Proxy hosts of the remote server: what it reports of them, and what it is sent.
-/
namespace ProxyOperator

namespace Remote

structure Health where
  online : Bool
  error : Option String
  deriving DecidableEq, Repr, Inhabited

namespace Health

def record : Record Health Health :=
  Health.mk
    <$> .defaulted "nginx_online" (·.online) .looseFlag false
    <*> .defaulted "nginx_err" (·.error) (.nullable .string) none

def codec : Codec Health := record.codec .strict

end Health

structure Location where
  path : String
  scheme : String
  host : String
  port : UInt16
  advancedConfig : String
  deriving DecidableEq, Repr, Inhabited

namespace Location

def record : Record Location Location :=
  Location.mk
    <$> .required "path" (·.path) .string
    <*> .required "forward_scheme" (·.scheme) .string
    <*> .required "forward_host" (·.host) .string
    <*> .required "forward_port" (·.port) .uint16
    <*> .defaulted "advanced_config" (·.advancedConfig) .string ""

def codec : Codec Location := record.codec .strict

end Location

structure Host where
  id : UInt32
  domains : List String
  scheme : String
  host : String
  port : UInt16
  accessListId : Option UInt32
  certificateId : Option UInt32
  sslForced : Bool
  caching : Bool
  blockExploits : Bool
  websockets : Bool
  http2 : Bool
  hsts : Bool
  hstsSubdomains : Bool
  advancedConfig : String
  enabled : Bool
  locations : Option (List Location)
  /-- Configuration outside the server block. Only servers that accept upstream blocks report the member
  at all, though its value may be null. -/
  unscopedConfig : Option (Option String)
  health : Health
  deriving DecidableEq, Repr, Inhabited

namespace Host

def record : Record Host Host :=
  Host.mk
    <$> .required "id" (·.id) .uint32
    <*> .defaulted "domain_names" (·.domains) (.list .string) []
    <*> .defaulted "forward_scheme" (·.scheme) .string ""
    <*> .defaulted "forward_host" (·.host) .string ""
    <*> .defaulted "forward_port" (·.port) .uint16 0
    <*> .defaulted "access_list_id" (·.accessListId) .looseId none
    <*> .defaulted "certificate_id" (·.certificateId) .looseId none
    <*> .defaulted "ssl_forced" (·.sslForced) .looseFlag false
    <*> .defaulted "caching_enabled" (·.caching) .looseFlag false
    <*> .defaulted "block_exploits" (·.blockExploits) .looseFlag false
    <*> .defaulted "allow_websocket_upgrade" (·.websockets) .looseFlag false
    <*> .defaulted "http2_support" (·.http2) .looseFlag false
    <*> .defaulted "hsts_enabled" (·.hsts) .looseFlag false
    <*> .defaulted "hsts_subdomains" (·.hstsSubdomains) .looseFlag false
    <*> .defaulted "advanced_config" (·.advancedConfig) .string ""
    <*> .defaulted "enabled" (·.enabled) .looseFlag false
    <*> .defaulted "locations" (·.locations) (.nullable (.list Location.codec)) none
    <*> .member "unscoped_config"
      (fun host => host.unscopedConfig.map (Codec.nullable .string).encode)
      (fun value => some <$> (Codec.nullable .string).decode value) (.ok none)
    <*> .defaulted "meta" (·.health) Health.codec default

def codec : Codec Host := record.codec .strict

/-- Whether the server showed with this host that it accepts upstream blocks. -/
def showsUnscopedConfig (host : Host) : Bool := host.unscopedConfig.isSome

structure Payload where
  domains : List String
  scheme : String
  host : String
  port : UInt16
  accessListId : Option UInt32
  certificateId : Option UInt32
  sslForced : Bool
  caching : Bool
  blockExploits : Bool
  websockets : Bool
  http2 : Bool
  hsts : Bool
  hstsSubdomains : Bool
  advancedConfig : String
  locations : List Location
  /-- Sent only to servers that accept upstream blocks. -/
  unscopedConfig : Option String
  deriving DecidableEq, Repr, Inhabited

namespace Payload

def record : Record Payload Payload :=
  Payload.mk
    <$> .defaulted "domain_names" (·.domains) (.list .string) []
    <*> .defaulted "forward_scheme" (·.scheme) .string ""
    <*> .defaulted "forward_host" (·.host) .string ""
    <*> .defaulted "forward_port" (·.port) .uint16 0
    <*> .defaulted "access_list_id" (·.accessListId) .idOrZero none
    <*> .defaulted "certificate_id" (·.certificateId) .idOrZero none
    <*> .defaulted "ssl_forced" (·.sslForced) .bool false
    <*> .defaulted "caching_enabled" (·.caching) .bool false
    <*> .defaulted "block_exploits" (·.blockExploits) .bool false
    <*> .defaulted "allow_websocket_upgrade" (·.websockets) .bool false
    <*> .defaulted "http2_support" (·.http2) .bool false
    <*> .defaulted "hsts_enabled" (·.hsts) .bool false
    <*> .defaulted "hsts_subdomains" (·.hstsSubdomains) .bool false
    <*> .defaulted "advanced_config" (·.advancedConfig) .string ""
    <*> .defaulted "locations" (·.locations) (.list Location.codec) []
    <*> .optional "unscoped_config" (·.unscopedConfig) .string

def codec : Codec Payload := record.codec .strict

end Payload

end Host

end Remote

end ProxyOperator
