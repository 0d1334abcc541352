import ProxyOperator.Resource.Metadata
/-!
Services of the cluster: a name for a group of pods, with the ports and addresses it is reached at.
-/
namespace ProxyOperator

inductive PortName where
  | number (value : Int32)
  | name (text : String)
  deriving DecidableEq, Inhabited

/-- Numbers are written as numbers, names as texts. -/
def PortName.codec : Codec PortName where
  encode
    | .number value => Codec.int32.encode value
    | .name text => .string text
  decode
    | .string text => .ok (.name text)
    | value => .number <$> Codec.int32.decode value

structure ServicePort where
  appProtocol : Option String
  name : Option String
  /-- The port on every node of the cluster, for Services that have one. -/
  nodePort : Option Int32
  port : Int32
  protocol : Option String
  targetPort : Option PortName
  deriving DecidableEq, Inhabited

namespace ServicePort

def record : Record ServicePort ServicePort :=
  ServicePort.mk
    <$> .optional "appProtocol" (·.appProtocol) .string
    <*> .optional "name" (·.name) .string
    <*> .optional "nodePort" (·.nodePort) .int32
    <*> .lenient "port" (·.port) .int32 0
    <*> .optional "protocol" (·.protocol) .string
    <*> .optional "targetPort" (·.targetPort) PortName.codec

def codec : Codec ServicePort := record.codec .cluster

end ServicePort

structure ServiceSpec where
  clusterIp : Option String
  externalName : Option String
  ports : Option (List ServicePort)
  selector : Option (Dictionary String)
  type : Option String
  deriving Inhabited

namespace ServiceSpec

def record : Record ServiceSpec ServiceSpec :=
  ServiceSpec.mk
    <$> .optional "clusterIP" (·.clusterIp) .string
    <*> .optional "externalName" (·.externalName) .string
    <*> .optional "ports" (·.ports) (.list ServicePort.codec)
    <*> .optional "selector" (·.selector) (.dictionary .string)
    <*> .optional "type" (·.type) .string

def codec : Codec ServiceSpec := record.codec .cluster

end ServiceSpec

structure Ingress where
  hostname : Option String
  ip : Option String
  deriving DecidableEq, Inhabited

namespace Ingress

def record : Record Ingress Ingress :=
  Ingress.mk
    <$> .optional "hostname" (·.hostname) .string
    <*> .optional "ip" (·.ip) .string

def codec : Codec Ingress := record.codec .cluster

end Ingress

structure LoadBalancer where
  ingress : Option (List Ingress)
  deriving DecidableEq, Inhabited

namespace LoadBalancer

def record : Record LoadBalancer LoadBalancer :=
  LoadBalancer.mk <$> .optional "ingress" (·.ingress) (.list Ingress.codec)

def codec : Codec LoadBalancer := record.codec .cluster

end LoadBalancer

structure ServiceStatus where
  loadBalancer : Option LoadBalancer
  deriving DecidableEq, Inhabited

namespace ServiceStatus

def record : Record ServiceStatus ServiceStatus :=
  ServiceStatus.mk <$> .optional "loadBalancer" (·.loadBalancer) LoadBalancer.codec

def codec : Codec ServiceStatus := record.codec .cluster

end ServiceStatus

structure Service where
  metadata : Metadata
  spec : Option ServiceSpec
  status : Option ServiceStatus
  deriving Inhabited

namespace Service

def record : Record Service Service :=
  (fun _ _ metadata spec status => ⟨metadata, spec, status⟩)
    <$> .constant "apiVersion" "v1"
    <*> .constant "kind" "Service"
    <*> .lenient "metadata" (·.metadata) Metadata.codec default
    <*> .optional "spec" (·.spec) ServiceSpec.codec
    <*> .optional "status" (·.status) ServiceStatus.codec

def codec : Codec Service := record.codec .cluster

def ingressIps (service : Service) : List String :=
  let points := service.status.bind (·.loadBalancer) |>.bind (·.ingress)
  (points.getD []).filterMap (·.ip)

end Service

end ProxyOperator
