import ProxyOperator.Resource.Metadata
/-!
Pods of the cluster, as far as it matters where they run.
-/
namespace ProxyOperator

structure PodSpec where
  nodeName : Option String
  deriving DecidableEq, Inhabited

namespace PodSpec

/-- Containers are of no interest; their list is passed over and written empty. -/
def record : Record PodSpec PodSpec :=
  (fun _ nodeName => ⟨nodeName⟩)
    <$> .written "containers" (fun _ => .array [])
    <*> .optional "nodeName" (·.nodeName) .string

def codec : Codec PodSpec := record.codec .cluster

end PodSpec

structure Pod where
  metadata : Metadata
  spec : Option PodSpec
  deriving Inhabited

namespace Pod

def record : Record Pod Pod :=
  (fun _ _ metadata spec => ⟨metadata, spec⟩)
    <$> .constant "apiVersion" "v1"
    <*> .constant "kind" "Pod"
    <*> .lenient "metadata" (·.metadata) Metadata.codec default
    <*> .optional "spec" (·.spec) PodSpec.codec

def codec : Codec Pod := record.codec .cluster

/-- The node a pod runs on, unless the pod is not placed yet or on its way out. -/
def liveNode? (pod : Pod) : Option String :=
  if pod.metadata.isDeleting then none else pod.spec.bind (·.nodeName)

end Pod

end ProxyOperator
