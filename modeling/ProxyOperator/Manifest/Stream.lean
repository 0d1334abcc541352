import ProxyOperator.Manifest.Shared
import ProxyOperator.Resource.Stream
/-!
Schemas of streams.
-/
namespace ProxyOperator

namespace Stream

def Spec.about : String :=
  "Stream declares an L4 forwarding rule on the remote proxy manager.\n\n" ++
  "Example: ```yaml apiVersion: npm.operator.io/v1alpha1 kind: Stream metadata: name: postgres spec: " ++
  "incomingPort: 5432 forward: service: name: postgres ```"

def Spec.schema : Schema :=
  .record about [
    .required "incomingPort" "Port the proxy listens on (unique across all Streams)" (.unsigned 16),
    .required "forward" "Forward target" Forward.schema,
    .defaulted "tcpForwarding" "Forward TCP traffic" .flag (.bool true),
    .off "udpForwarding" "Forward UDP traffic",
    .off "bindExisting" "Adopt an existing remote stream on the same incoming port",
    .token]

def Snapshot.schema : Schema :=
  .record "Snapshot of a remote stream's mutable fields, taken at adoption" [
    .required "incomingPort" "Incoming port" (.unsigned 16),
    .required "forwardingHost" "Forward host" .text,
    .required "forwardingPort" "Forward port" (.unsigned 16),
    .required "tcpForwarding" "TCP forwarding enabled" .flag,
    .required "udpForwarding" "UDP forwarding enabled" .flag,
    .required "enabled" "Whether the stream was enabled" .flag]

def Status.schema : Schema :=
  .record "Stream status" [
    .remoteId "Remote stream id (immutable once set)",
    .off "bound" "Whether this resource adopted a pre-existing remote stream",
    .optional "initialConfiguration"
      "Remote configuration captured when the stream was first adopted" Snapshot.schema,
    .off "online" "Whether the remote proxy reports the stream as online",
    .observedGeneration,
    .conditions]

end Stream

end ProxyOperator
