import ProxyOperator.Manifest.Schema
import ProxyOperator.Resource.Condition
import ProxyOperator.Resource.Forward
import ProxyOperator.Resource.Reference
/-!
Schemas of what the declarations and the statuses of several kinds have in common.
-/
namespace ProxyOperator

def ResourceRef.schema : Schema :=
  .record "Reference to another npm operator resource, optionally in another namespace" [
    .required "name" "Name of the referenced resource" .text,
    .optional "namespace"
      "Namespace of the referenced resource (defaults to the referrer's namespace)" .text]

def SecretKeyRef.schema : Schema :=
  .record "Reference to a single key in a Kubernetes Secret" [
    .required "name" "Secret name (same namespace as the referrer)" .text,
    .required "key" "Key within the Secret's data" .text]

def Backend.schema : Schema :=
  .record "One explicit backend endpoint" [
    .required "host" "Hostname or IP address" .text,
    .required "port" "Port number" (.unsigned 16)]

def ServiceRef.schema : Schema :=
  .record "Reference to a Kubernetes Service used as forward target" [
    .required "name" "Service name" .text,
    .optional "namespace" "Service namespace (defaults to the referrer's namespace)" .text,
    .optional "port" "Explicit service port; when unset the port is picked by name" (.unsigned 16)]

def Forward.schema : Schema :=
  .record "Where traffic is forwarded: exactly one of `hosts` or `service`" [
    .defaulted "scheme" "Scheme used towards the backend"
      (.choice [Scheme.http.name, Scheme.https.name]) (.string Scheme.http.name),
    .optional "hosts" "Ordered list of explicit backends" (.list Backend.schema),
    .optional "service" "Kubernetes Service backend" ServiceRef.schema,
    .optional "advancedConfig" "Raw nginx configuration attached to this target" .text]

def Condition.schema : Schema :=
  .record "Kubernetes-style condition for status reporting" [
    .required "type" "Type of condition (Ready, Reconciling, Error)" .text,
    .required "status" "Status of the condition (True, False, Unknown)"
      (.choice [ConditionStatus.true.name, ConditionStatus.false.name, ConditionStatus.unknown.name]),
    .required "reason" "Machine-readable reason for the condition" .text,
    .required "message" "Human-readable message" .text,
    .required "lastTransitionTime" "Last time the condition transitioned" .instant,
    .optional "observedGeneration" "Generation of the declaration the condition was recorded against"
      (.signed 64)]

namespace Member

def token : Member Schema :=
  optional "token" "Token used to reach the remote API (defaults to namespace discovery)"
    ResourceRef.schema

def conditions : Member Schema :=
  listed "conditions" "Ready / Reconciling / Error conditions" Condition.schema

def remoteId (about : String) : Member Schema := optional "id" about (.unsigned 32)

/-- The generation last converged. -/
def observedGeneration : Member Schema :=
  optional "observedGeneration" "Generation of the spec last converged" (.signed 64)

end Member

end ProxyOperator
