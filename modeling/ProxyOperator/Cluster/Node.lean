import ProxyOperator.Resource.Metadata
/-!
Nodes of the cluster and the addresses they are reached at.
-/
namespace ProxyOperator

structure NodeAddress where
  address : String
  type : String
  deriving DecidableEq, Inhabited

namespace NodeAddress

def record : Record NodeAddress NodeAddress :=
  NodeAddress.mk
    <$> .lenient "address" (·.address) .string ""
    <*> .lenient "type" (·.type) .string ""

def codec : Codec NodeAddress := record.codec .cluster

end NodeAddress

structure NodeStatus where
  addresses : Option (List NodeAddress)
  deriving DecidableEq, Inhabited

namespace NodeStatus

def record : Record NodeStatus NodeStatus :=
  NodeStatus.mk <$> .optional "addresses" (·.addresses) (.list NodeAddress.codec)

def codec : Codec NodeStatus := record.codec .cluster

end NodeStatus

structure Node where
  metadata : Metadata
  status : Option NodeStatus
  deriving Inhabited

namespace Node

def record : Record Node Node :=
  (fun _ _ metadata status => ⟨metadata, status⟩)
    <$> .constant "apiVersion" "v1"
    <*> .constant "kind" "Node"
    <*> .lenient "metadata" (·.metadata) Metadata.codec default
    <*> .optional "status" (·.status) NodeStatus.codec

def codec : Codec Node := record.codec .cluster

def internalIp? (node : Node) : Option String :=
  let addresses := (node.status.bind (·.addresses)).getD []
  (addresses.find? (·.type = "InternalIP")).map (·.address)

end Node

end ProxyOperator
