import ProxyOperator.Adoption
import ProxyOperator.Reconcile.Credentials
/-!
The parts of passes on resources that may adopt remote objects: how an object is found, adopted, made and
recorded, and what becomes of it when its resource is deleted. The id of an object is recorded before
anything else can fail, so that there is never a second one.
-/
namespace ProxyOperator

namespace Adopting

open Reconcile

variable {kind : Kind} (adopting : Adopting kind)

def recorded (id : UInt32) (snapshot : Option adopting.Snapshot) (status : kind.Status) :
    kind.Status :=
  adopting.withFooting ((adopting.footing status).recorded id snapshot) status

/-- Record a remote object that was just made or adopted, and tell about it. -/
def recordRemote (context : Context) (resource : Resource kind) (id : UInt32)
    (snapshot : Option adopting.Snapshot) (reason : String) : Pass Unit := do
  updateStatus context kind resource.metadata.spokenKey (adopting.recorded id snapshot)
  announceDone resource reason ("remote " ++ adopting.title ++ " " ++ toString id.toNat)

def adopt (context : Context) (session : Remote.Session) (resource : Resource kind) :
    Pass (Option adopting.collection.Object) := do
  let found := adopting.wanted resource.spec (← session.list adopting.collection)
  match found with
  | none => return none
  | some remote =>
      adopting.recordRemote context resource (adopting.collection.idOf remote)
        (some (adopting.snapshot remote)) Event.adopted
      return some remote

/-- The remote object of a resource: the one on record, or one that is adopted if the declaration asks
for it; and whether it was there before. -/
def findRemote (context : Context) (session : Remote.Session) (resource : Resource kind) :
    Staged (Option adopting.collection.Object × Bool) := do
  let footing := adopting.footingOf resource
  match footing.id with
  | some id =>
      return (some (← Stage.remote.run (session.get adopting.collection id)), footing.bound)
  | none =>
      if adopting.binds resource.spec then
        let adopted ← Stage.adoption.run (adopting.adopt context session resource)
        return (adopted, adopted.isSome || footing.bound)
      else return (none, footing.bound)

def write (context : Context) (session : Remote.Session) (resource : Resource kind)
    (existing : Option adopting.collection.Object) (payload : adopting.collection.Payload) :
    Pass adopting.collection.Object := do
  match existing with
  | some remote =>
      session.update adopting.collection (adopting.collection.idOf remote) payload
  | none =>
      let remote ← session.create adopting.collection payload
      adopting.recordRemote context resource (adopting.collection.idOf remote) none Event.created
      return remote

/-- Put back, disable or delete the remote object. -/
def cleanUp (session : Remote.Session) : Cleanup adopting.Snapshot → Pass String
  | .restore id snapshot => do
      let _ ← session.update adopting.collection id (adopting.payload snapshot)
      if adopting.enabled snapshot then session.enable adopting.collection id
      else session.disable adopting.collection id
      return Event.restored
  | .disable id => do
      session.disable adopting.collection id
      return Event.disabled
  | .delete id => deleteRemote session adopting.collection id
  | .nothing => return Event.deleted

def cleanup (context : Context) (resource : Resource kind) : Option (Pass String) :=
  let footing := adopting.footingOf resource
  match Cleanup.plan footing.id footing.bound footing.initial with
  | .nothing => none
  | plan => some do
      let session ←
        connect context (adopting.token resource.spec) resource.metadata.spokenKey.namespace
      adopting.cleanUp session plan

end Adopting

end ProxyOperator
