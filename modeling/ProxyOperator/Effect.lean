import ProxyOperator.Cluster.Event
import ProxyOperator.Cluster.Node
import ProxyOperator.Cluster.Pod
import ProxyOperator.Cluster.Secret
import ProxyOperator.Cluster.Service
import ProxyOperator.Program
import ProxyOperator.Remote.Request
import ProxyOperator.Retry
import ProxyOperator.Settings.Basic
/-!
What a pass may ask of the world: reads and writes of the resources, reads of the cluster, requests to
the remote server, events and waits. A pass is a program of these requests that may fail.
-/
namespace ProxyOperator

inductive Effect where
  | read (kind : Kind) (key : ObjectKey)
  | list (kind : Kind) («namespace» : Option String)
  /-- Replace the status of a resource, provided that it still has the revision given. -/
  | writeStatus (kind : Kind) (key : ObjectKey) (revision : Option String) (status : kind.Status)
  | addFinalizer (kind : Kind) (key : ObjectKey)
  | removeFinalizer (kind : Kind) (key : ObjectKey)
  | secret (key : ObjectKey)
  | service (key : ObjectKey)
  | pods («namespace» selector : String)
  | node (name : String)
  | connect (session : Remote.Session)
  | requestToken (endpoint identity secret : String)
  | remote (session : Remote.Session) (request : Remote.Request)
  /-- Tell about something. Nobody waits for it, and it cannot fail. -/
  | publish (event : Event)
  /-- Wait for a time that is spread around the one given, in milliseconds. -/
  | pause (wait : Rat)

namespace Effect

/-- What a request is answered with. -/
@[reducible] def Answer : Effect → Type
  | .read kind _ => Except Failure (Option (Resource kind))
  | .list kind _ => Except Failure (List (Resource kind))
  | .writeStatus _ _ _ _ => Except Failure Unit
  | .addFinalizer _ _ => Except Failure Unit
  | .removeFinalizer _ _ => Except Failure Unit
  | .secret _ => Except Failure (Option Secret)
  | .service _ => Except Failure (Option Service)
  | .pods _ _ => Except Failure (List Pod)
  | .node _ => Except Failure (Option Node)
  | .connect _ => Except Failure Unit
  | .requestToken _ _ _ => Except Failure Remote.Grant
  | .remote _ request => Except Failure request.Result
  | .publish _ => Unit
  | .pause _ => Unit

end Effect

@[reducible] def Effects : Interface := ⟨Effect, Effect.Answer⟩

/-- A pass, or a part of one. -/
abbrev Pass (α : Type) := ExceptT Failure (Program Effects) α

def Effect.ask (effect : Effect) : Program Effects effect.Answer := @Program.request Effects effect

namespace Pass

def read (kind : Kind) (key : ObjectKey) : Pass (Option (Resource kind)) :=
  (Effect.read kind key).ask

def listAll (kind : Kind) : Pass (List (Resource kind)) := (Effect.list kind none).ask

def listIn (kind : Kind) («namespace» : String) : Pass (List (Resource kind)) :=
  (Effect.list kind (some «namespace»)).ask

def writeStatus (kind : Kind) (key : ObjectKey) (revision : Option String) (status : kind.Status) :
    Pass Unit :=
  (Effect.writeStatus kind key revision status).ask

def addFinalizer (kind : Kind) (key : ObjectKey) : Pass Unit := (Effect.addFinalizer kind key).ask

def removeFinalizer (kind : Kind) (key : ObjectKey) : Pass Unit :=
  (Effect.removeFinalizer kind key).ask

def secret (key : ObjectKey) : Pass (Option Secret) := (Effect.secret key).ask

def service (key : ObjectKey) : Pass (Option Service) := (Effect.service key).ask

def pods («namespace» selector : String) : Pass (List Pod) := (Effect.pods «namespace» selector).ask

def node (name : String) : Pass (Option Node) := (Effect.node name).ask

def requestToken (endpoint identity secret : String) : Pass Remote.Grant :=
  (Effect.requestToken endpoint identity secret).ask

def connect (session : Remote.Session) : Pass Unit := (Effect.connect session).ask

def publish (event : Event) : Pass Unit := ExceptT.lift (Effect.publish event).ask

def pause (wait : Rat) : Pass Unit := ExceptT.lift (Effect.pause wait).ask

/-- Demand a value that may be missing. -/
def demand {α : Type} (failure : Failure) : Option α → Pass α
  | some value => pure value
  | none => throw failure

/-- Make an attempt, numbered from one, and further ones after it as long as it is worth it; `left` of
them may follow. -/
def retryFrom {α : Type} (retry : Retry) (accepts : Failure → Bool) (action : Pass α) :
    (left attempt : Nat) → Pass α
  | 0, _ => action
  | left + 1, attempt => ExceptT.mk do
      let outcome ← action.run
      if retry.goesOn accepts attempt outcome then
        let _ ← (Effect.pause (retry.delay attempt)).ask
        (retryFrom retry accepts action left (attempt + 1)).run
      else return outcome

def retry {α : Type} (retry : Retry) (accepts : Failure → Bool) (action : Pass α) : Pass α :=
  retryFrom retry accepts action (retry.maxAttempts - 1) 1

end Pass

namespace Remote.Session

/-! Requests within a session. -/

variable (session : Session)

def list (collection : Collection) : Pass (List collection.Object) :=
  (Effect.remote session (.list collection)).ask

def get (collection : Collection) (id : UInt32) : Pass collection.Object :=
  (Effect.remote session (.get collection id)).ask

def create (collection : Collection) (payload : collection.Payload) : Pass collection.Object :=
  (Effect.remote session (.create collection payload)).ask

def update (collection : Collection) (id : UInt32) (payload : collection.Payload) :
    Pass collection.Object :=
  (Effect.remote session (.update collection id payload)).ask

def delete (collection : Collection) (id : UInt32) : Pass Unit :=
  (Effect.remote session (.delete collection id)).ask

def enable (collection : Collection) (id : UInt32) : Pass Unit :=
  (Effect.remote session (.enable collection id)).ask

def disable (collection : Collection) (id : UInt32) : Pass Unit :=
  (Effect.remote session (.disable collection id)).ask

def upload (id : UInt32) (material : Material) : Pass Unit :=
  (Effect.remote session (.upload id material)).ask

end Remote.Session

end ProxyOperator
