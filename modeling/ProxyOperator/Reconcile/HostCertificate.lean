import ProxyOperator.Reconcile.Basic
import ProxyOperator.Remote.Search
/-!
The certificate of a proxy host. Its sources are looked at in a fixed order, and the first one that is
given decides: if it fails, the others are of no help.
-/
namespace ProxyOperator

structure HostCertificate where
  /-- The remote id; without one the host has no certificate. -/
  id : Option UInt32
  /-- Whether the certificate was found rather than requested for the host. -/
  bound : Bool
  deriving DecidableEq, Repr, Inhabited

namespace HostCertificate

def none : HostCertificate := ⟨.none, false⟩

def confirm (session : Remote.Session) (id : UInt32) : Pass HostCertificate := do
  let certificate ← session.get .certificates id
  return ⟨some certificate.id, false⟩

def ofResource (kind : Kind) (idOf : kind.Status → Option UInt32) (key : ObjectKey) :
    Pass UInt32 := do
  let name := kind.name ++ " " ++ key.text
  let resource ← Pass.demand (.reference (name ++ " not found")) (← Pass.read kind key)
  Pass.demand (.reference (name ++ " has no remote certificate yet")) (resource.status.bind idOf)

/-- Find a certificate for domains, or request one. -/
def findOrRequest (session : Remote.Session) (domains : List String) (email : Option String) :
    Pass HostCertificate := do
  match Remote.findCertificate domains (← session.list .certificates) with
  | some certificate => return ⟨some certificate.id, true⟩
  | .none =>
      let email ← Pass.demand
        (.invalid "autoCertificateRequest needs ssl.letsencryptEmail or an operator default email")
        email
      let certificate ← session.create .certificates (.issue domains email)
      return ⟨some certificate.id, false⟩

def resolve (session : Remote.Session) (ssl : Option ProxyHost.Ssl) (domains : List String)
    («namespace» : String) (defaultEmail : Option String) : Pass HostCertificate :=
  match ssl with
  | .none => return none
  | some ssl =>
      match ssl.letsEncryptCertificate, ssl.customCertificate, ssl.certificateId with
      | some reference, _, _ => do
          let key := reference.resolve «namespace»
          confirm session (← ofResource .letsEncryptCertificate (·.id) key)
      | .none, some reference, _ => do
          let key := reference.resolve «namespace»
          confirm session (← ofResource .customCertificate (·.id) key)
      | .none, .none, some id => confirm session id
      | .none, .none, .none =>
          if ssl.autoRequest then findOrRequest session domains (ssl.email <|> defaultEmail)
          else return none

end HostCertificate

end ProxyOperator
