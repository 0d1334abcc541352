import ProxyOperator.Resource.Condition
import ProxyOperator.Resource.Forward
import ProxyOperator.Resource.Problem
/-!
Streams: TCP and UDP traffic that arrives at a port of the remote server, and where it goes.
-/
namespace ProxyOperator

namespace Stream

structure Spec where
  incomingPort : UInt16
  forward : Forward
  tcp : Bool
  udp : Bool
  /-- Adopt a remote stream of the same port instead of creating one. -/
  bindExisting : Bool
  token : Option ResourceRef
  deriving DecidableEq, Repr, Inhabited

namespace Spec

def record : Record Spec Spec :=
  Spec.mk
    <$> .required "incomingPort" (·.incomingPort) .uint16
    <*> .required "forward" (·.forward) Forward.codec
    <*> .defaulted "tcpForwarding" (·.tcp) .bool true
    <*> .defaulted "udpForwarding" (·.udp) .bool false
    <*> .defaulted "bindExisting" (·.bindExisting) .bool false
    <*> .optional "token" (·.token) ResourceRef.codec

def codec : Codec Spec := record.codec .strict

def check (spec : Spec) : Except Problem Unit :=
  if spec.incomingPort = 0 then .error .portZero
  else if !spec.tcp && !spec.udp then .error .noProtocol
  else .ok ()

end Spec

structure Snapshot where
  incomingPort : UInt16
  host : String
  port : UInt16
  tcp : Bool
  udp : Bool
  enabled : Bool
  deriving DecidableEq, Repr, Inhabited

namespace Snapshot

def record : Record Snapshot Snapshot :=
  Snapshot.mk
    <$> .required "incomingPort" (·.incomingPort) .uint16
    <*> .required "forwardingHost" (·.host) .string
    <*> .required "forwardingPort" (·.port) .uint16
    <*> .required "tcpForwarding" (·.tcp) .bool
    <*> .required "udpForwarding" (·.udp) .bool
    <*> .required "enabled" (·.enabled) .bool

def codec : Codec Snapshot := record.codec .strict

end Snapshot

structure Status where
  /-- The remote id; once set it stays. -/
  id : Option UInt32
  /-- Whether the remote stream was there before. -/
  bound : Bool
  /-- What the remote stream looked like when it was adopted. -/
  initial : Option Snapshot
  online : Bool
  /-- The generation last converged. -/
  observedGeneration : Option Int64
  conditions : List Condition
  deriving DecidableEq, Inhabited

namespace Status

def record : Record Status Status :=
  Status.mk
    <$> .optional "id" (·.id) .uint32
    <*> .defaulted "bound" (·.bound) .bool false
    <*> .optional "initialConfiguration" (·.initial) Snapshot.codec
    <*> .defaulted "online" (·.online) .bool false
    <*> .optional "observedGeneration" (·.observedGeneration) .int64
    <*> .listed "conditions" (·.conditions) Condition.codec

def codec : Codec Status := record.codec .strict

end Status

end Stream

end ProxyOperator
