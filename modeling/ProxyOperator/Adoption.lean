import ProxyOperator.Remote.Request
import ProxyOperator.Remote.Search
import ProxyOperator.Resource.Basic
/-!
Adoption of remote objects that were there before. What an object looked like when it was adopted is
kept, and put back when the resource that adopted it is deleted; an adopted object is never deleted.
-/
namespace ProxyOperator

namespace ProxyHost

/-- A location of a remote host, for keeping. -/
def LocationSnapshot.of (location : Remote.Location) : LocationSnapshot :=
  ⟨location.path, location.scheme, location.host, location.port, location.advancedConfig⟩

def LocationSnapshot.restored (location : LocationSnapshot) : Remote.Location :=
  ⟨location.path, location.scheme, location.host, location.port, location.advancedConfig⟩

def Snapshot.of (remote : Remote.Host) : Snapshot where
  domains := remote.domains
  scheme := remote.scheme
  host := remote.host
  port := remote.port
  accessListId := remote.accessListId.getD 0
  certificateId := remote.certificateId.getD 0
  sslForced := remote.sslForced
  http2 := remote.http2
  hsts := remote.hsts
  hstsSubdomains := remote.hstsSubdomains
  caching := remote.caching
  blockExploits := remote.blockExploits
  websockets := remote.websockets
  advancedConfig := remote.advancedConfig
  unscopedConfig := remote.unscopedConfig.join
  enabled := remote.enabled
  locations := (remote.locations.getD []).map .of

/-- An id that is kept as zero if there is none. -/
def Snapshot.idOf (id : UInt32) : Option UInt32 := if id = 0 then none else some id

def Snapshot.payload (snapshot : Snapshot) : Remote.Host.Payload where
  domains := snapshot.domains
  scheme := snapshot.scheme
  host := snapshot.host
  port := snapshot.port
  accessListId := idOf snapshot.accessListId
  certificateId := idOf snapshot.certificateId
  sslForced := snapshot.sslForced
  caching := snapshot.caching
  blockExploits := snapshot.blockExploits
  websockets := snapshot.websockets
  http2 := snapshot.http2
  hsts := snapshot.hsts
  hstsSubdomains := snapshot.hstsSubdomains
  advancedConfig := snapshot.advancedConfig
  locations := snapshot.locations.map (·.restored)
  unscopedConfig := snapshot.unscopedConfig

end ProxyHost

namespace Stream

def Snapshot.of (remote : Remote.Stream) : Snapshot where
  incomingPort := remote.incomingPort
  host := remote.host
  port := remote.port
  tcp := remote.tcp
  udp := remote.udp
  enabled := remote.enabled

def Snapshot.payload (snapshot : Snapshot) : Remote.Stream.Payload where
  incomingPort := snapshot.incomingPort
  host := snapshot.host
  port := snapshot.port
  tcp := snapshot.tcp
  udp := snapshot.udp

end Stream

/-- What becomes of the remote object when its resource is deleted. -/
inductive Cleanup (σ : Type) where
  /-- It was adopted: put it back as it was. -/
  | restore (id : UInt32) (snapshot : σ)
  /-- It was adopted, and nobody knows how it was. -/
  | disable (id : UInt32)
  /-- It was made for the resource. -/
  | delete (id : UInt32)
  | nothing
  deriving DecidableEq, Repr

/-- What to do with the remote object of a resource, given its id, whether it was adopted, and how it
was then. -/
def Cleanup.plan {σ : Type} (id : Option UInt32) (bound : Bool) (snapshot : Option σ) : Cleanup σ :=
  match id, bound, snapshot with
  | none, _, _ => .nothing
  | some id, true, some snapshot => .restore id snapshot
  | some id, true, none => .disable id
  | some id, false, _ => .delete id

/-- What a status says of the remote object of a resource. -/
structure Footing (σ : Type) where
  id : Option UInt32
  /-- Whether the object was there before. -/
  bound : Bool
  /-- What the object looked like when it was adopted. -/
  initial : Option σ

namespace Footing

variable {σ : Type}

def nothing : Footing σ := ⟨none, false, none⟩

/-- An object was just made or adopted. What it looked like when it was adopted is recorded once. -/
def recorded (id : UInt32) (snapshot : Option σ) (footing : Footing σ) : Footing σ :=
  ⟨some id, snapshot.isSome, footing.initial <|> snapshot⟩

end Footing

/-- How resources of a kind adopt remote objects. -/
structure Adopting (kind : Kind) where
  Snapshot : Type
  collection : Remote.Collection
  title : String
  snapshot : collection.Object → Snapshot
  /-- The body that puts an object back. -/
  payload : Snapshot → collection.Payload
  enabled : Snapshot → Bool
  token : kind.Spec → Option ResourceRef
  binds : kind.Spec → Bool
  /-- The object that a declaration is about. -/
  wanted : kind.Spec → List collection.Object → Option collection.Object
  footing : kind.Status → Footing Snapshot
  withFooting : Footing Snapshot → kind.Status → kind.Status
  footing_empty : footing kind.emptyStatus = .nothing
  footing_withFooting : ∀ said status, footing (withFooting said status) = said
  /-- Conditions are not about the object. -/
  footing_mapConditions : ∀ change status, footing (kind.mapConditions change status) = footing status

namespace Adopting

@[reducible] def proxyHosts : Adopting .proxyHost where
  Snapshot := ProxyHost.Snapshot
  collection := .proxyHosts
  title := "proxy host"
  snapshot := ProxyHost.Snapshot.of
  payload := ProxyHost.Snapshot.payload
  enabled snapshot := snapshot.enabled
  token spec := spec.token
  binds spec := spec.bindExisting
  wanted spec := Remote.findHost spec.domains
  footing status := ⟨status.id, status.bound, status.initial⟩
  withFooting footing status :=
    { status with id := footing.id, bound := footing.bound, initial := footing.initial }
  footing_empty := rfl
  footing_withFooting _ _ := rfl
  footing_mapConditions _ _ := rfl

@[reducible] def streams : Adopting .stream where
  Snapshot := Stream.Snapshot
  collection := .streams
  title := "stream"
  snapshot := Stream.Snapshot.of
  payload := Stream.Snapshot.payload
  enabled snapshot := snapshot.enabled
  token spec := spec.token
  binds spec := spec.bindExisting
  wanted spec := Remote.findStream spec.incomingPort
  footing status := ⟨status.id, status.bound, status.initial⟩
  withFooting footing status :=
    { status with id := footing.id, bound := footing.bound, initial := footing.initial }
  footing_empty := rfl
  footing_withFooting _ _ := rfl
  footing_mapConditions _ _ := rfl

def footingOf {kind : Kind} (adopting : Adopting kind) (resource : Resource kind) :
    Footing adopting.Snapshot :=
  adopting.footing resource.statusOrEmpty

@[simp] theorem proxyHosts_footingOf_id (host : ProxyHost) :
    (proxyHosts.footingOf host).id = host.remoteId := by
  unfold footingOf Resource.statusOrEmpty ProxyHost.remoteId
  cases host.status <;> rfl

@[simp] theorem proxyHosts_footingOf_bound (host : ProxyHost) :
    (proxyHosts.footingOf host).bound = host.isBound := by
  unfold footingOf Resource.statusOrEmpty ProxyHost.isBound
  cases host.status <;> rfl

@[simp] theorem streams_footingOf_id (stream : Stream) :
    (streams.footingOf stream).id = stream.remoteId := by
  unfold footingOf Resource.statusOrEmpty Stream.remoteId
  cases stream.status <;> rfl

@[simp] theorem streams_footingOf_bound (stream : Stream) :
    (streams.footingOf stream).bound = stream.isBound := by
  unfold footingOf Resource.statusOrEmpty Stream.isBound
  cases stream.status <;> rfl

end Adopting

end ProxyOperator
