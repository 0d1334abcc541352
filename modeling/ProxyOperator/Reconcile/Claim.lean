import ProxyOperator.Resource.Basic
/-!
Claims: of several resources that want the same domain or the same port, the one with the least key
holds it. A resource that is being deleted holds nothing.
-/
namespace ProxyOperator

/-- What decides between claims: age, then namespace, then name. -/
structure ClaimKey where
  /-- Without a time of creation a resource counts as the oldest. -/
  creation : Option Instant
  object : ObjectKey
  deriving DecidableEq, Inhabited

namespace ClaimKey

/-- Whether an object comes before another one, by namespace and then by name. -/
def objectBefore (first second : ObjectKey) : Bool :=
  first.namespace < second.namespace ||
    (first.namespace = second.namespace && first.name < second.name)

def before (first second : ClaimKey) : Bool :=
  match first.creation, second.creation with
  | none, none => objectBefore first.object second.object
  | none, some _ => true
  | some _, none => false
  | some one, some other => one < other || (one = other && objectBefore first.object second.object)

end ClaimKey

namespace Resource

variable {kind : Kind}

def claimKey (resource : Resource kind) : ClaimKey :=
  ⟨resource.metadata.creation, resource.metadata.key⟩

def precedes (other resource : Resource kind) : Bool :=
  !other.metadata.isDeleting && other.key ≠ resource.key &&
    other.claimKey.before resource.claimKey

end Resource

def ProxyHost.contestedDomain? (host other : ProxyHost) : Option String :=
  (other.spec.domains.map Domain.normalize).find? fun domain =>
    (host.spec.domains.map Domain.normalize).contains domain

/-- A host that claimed one of a host's domains first, and that domain. -/
def ProxyHost.rival? (host : ProxyHost) (others : List ProxyHost) : Option (ProxyHost × String) :=
  (others.filter (·.precedes host)).findSome? fun other =>
    (host.contestedDomain? other).map fun domain => (other, domain)

/-- A stream that claimed a stream's port first. -/
def Stream.rival? (stream : Stream) (others : List Stream) : Option Stream :=
  others.find? fun other =>
    other.spec.incomingPort = stream.spec.incomingPort && other.precedes stream

end ProxyOperator
