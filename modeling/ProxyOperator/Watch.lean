import ProxyOperator.Resource.Basic
/-!
Which proxy hosts to look at again when something they refer to has changed.
-/
namespace ProxyOperator

inductive Referent where
  | letsEncryptCertificate
  | customCertificate
  | accessList
  | token
  | service
  deriving DecidableEq, Repr

namespace ProxyHost

def leadsTo (host : ProxyHost) (reference : Option ResourceRef) (object : ObjectKey) : Bool :=
  reference.any fun reference => reference.resolve host.key.namespace = object

def forwardsTo (host : ProxyHost) (object : ObjectKey) (forward : Forward) : Bool :=
  forward.service.any fun reference => reference.resolve host.key.namespace = object

def isGuardedBy (host : ProxyHost) (object : ObjectKey) : Bool :=
  host.spec.accessList.any fun reference =>
    reference.name.any fun name =>
      ⟨reference.namespace.getD host.key.namespace, name⟩ = object

/-- Whether a host may get its session through a Token. Without a reference that may be any Token of
its own namespace or of the operator's. -/
def mayUseToken (host : ProxyHost) (operatorNamespace : String) (object : ObjectKey) : Bool :=
  match host.spec.token with
  | some reference => reference.resolve host.key.namespace = object
  | none => object.namespace = host.key.namespace || object.namespace = operatorNamespace

/-- Whether a host may depend on an object. -/
def dependsOn (host : ProxyHost) (operatorNamespace : String) (referent : Referent)
    (object : ObjectKey) : Bool :=
  match referent with
  | .letsEncryptCertificate =>
      host.leadsTo (host.spec.ssl.bind (·.letsEncryptCertificate)) object
  | .customCertificate => host.leadsTo (host.spec.ssl.bind (·.customCertificate)) object
  | .accessList => host.isGuardedBy object
  | .token => host.mayUseToken operatorNamespace object
  | .service =>
      host.forwardsTo object host.spec.forward ||
        host.spec.locations.any fun location => host.forwardsTo object location.forward

/-- The hosts of a list that may depend on an object, in the order of the list. -/
def affected (hosts : List ProxyHost) (operatorNamespace : String) (referent : Referent)
    (object : ObjectKey) : List ProxyHost :=
  hosts.filter fun host => host.dependsOn operatorNamespace referent object

end ProxyHost

end ProxyOperator
