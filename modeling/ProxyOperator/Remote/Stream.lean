import ProxyOperator.Remote.Host
/-!
Streams of the remote server: what it reports of them, and what it is sent.
-/
namespace ProxyOperator

namespace Remote

structure Stream where
  id : UInt32
  incomingPort : UInt16
  host : String
  port : UInt16
  tcp : Bool
  udp : Bool
  enabled : Bool
  health : Health
  deriving DecidableEq, Repr, Inhabited

namespace Stream

def record : Record Stream Stream :=
  Stream.mk
    <$> .required "id" (·.id) .uint32
    <*> .defaulted "incoming_port" (·.incomingPort) .uint16 0
    <*> .defaulted "forwarding_host" (·.host) .string ""
    <*> .defaulted "forwarding_port" (·.port) .uint16 0
    <*> .defaulted "tcp_forwarding" (·.tcp) .looseFlag false
    <*> .defaulted "udp_forwarding" (·.udp) .looseFlag false
    <*> .defaulted "enabled" (·.enabled) .looseFlag false
    <*> .defaulted "meta" (·.health) Health.codec default

def codec : Codec Stream := record.codec .strict

structure Payload where
  incomingPort : UInt16
  host : String
  port : UInt16
  tcp : Bool
  udp : Bool
  deriving DecidableEq, Repr, Inhabited

namespace Payload

def record : Record Payload Payload :=
  Payload.mk
    <$> .defaulted "incoming_port" (·.incomingPort) .uint16 0
    <*> .defaulted "forwarding_host" (·.host) .string ""
    <*> .defaulted "forwarding_port" (·.port) .uint16 0
    <*> .defaulted "tcp_forwarding" (·.tcp) .bool false
    <*> .defaulted "udp_forwarding" (·.udp) .bool false

def codec : Codec Payload := record.codec .strict

end Payload

end Stream

end Remote

end ProxyOperator
