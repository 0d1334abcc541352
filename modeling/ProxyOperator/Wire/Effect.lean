import ProxyOperator.Effect
import ProxyOperator.Wire.Recorder
import ProxyOperator.Wire.RemoteApi
/-!
What passes ask for, done by exchanges with the cluster and with remote servers.
-/
namespace ProxyOperator

namespace Wire

/-- How a running operator goes about its work: it keeps a recorder of events and asks its machine for
everything else. -/
abbrev Working (α : Type) := StateT Recorder (Program Operations) α

def answer : (effect : Effect) → Working effect.Answer
  | .read kind key => (ClusterApi.resource? kind key).run
  | .list kind «namespace» =>
      (ClusterApi.list (Resource.codec kind) (ClusterApi.resourcesPath kind «namespace») []).run
  | .writeStatus kind key revision status => (ClusterApi.writeStatus kind key revision status).run
  | .addFinalizer kind key => (ClusterApi.setHeld kind key true).run
  | .removeFinalizer kind key => (ClusterApi.setHeld kind key false).run
  | .secret key =>
      (ClusterApi.find? Secret.codec (ClusterApi.corePath key.namespace "secrets") key.name).run
  | .service key =>
      (ClusterApi.find? Service.codec (ClusterApi.corePath key.namespace "services") key.name).run
  | .pods «namespace» selector =>
      (ClusterApi.list Pod.codec (ClusterApi.corePath «namespace» "pods")
        [("labelSelector", selector)]).run
  | .node name => (ClusterApi.find? Node.codec (ClusterApi.corePath none "nodes") name).run
  | .connect session => return RemoteApi.connect session
  | .requestToken endpoint identity secret => (RemoteApi.requestToken endpoint identity secret).run
  | .remote session request => (RemoteApi.ask session request).run
  | .publish event => Recorder.publish event
  | .pause wait => (Operation.pause wait).ask

def perform {α : Type} (pass : Pass α) : Working (Except Failure α) := pass.run.run answer

end Wire

end ProxyOperator
