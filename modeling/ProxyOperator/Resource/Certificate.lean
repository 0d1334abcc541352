import ProxyOperator.Resource.Condition
import ProxyOperator.Resource.Domain
import ProxyOperator.Resource.Reference
/-!
Certificates of the remote server: those it is asked to have issued, and those whose material is
uploaded from a Secret.
-/
namespace ProxyOperator

namespace LetsEncryptCertificate

structure DnsChallenge where
  provider : String
  credentialsSecret : String
  propagationSeconds : Option UInt32
  deriving DecidableEq, Repr, Inhabited

namespace DnsChallenge

def record : Record DnsChallenge DnsChallenge :=
  DnsChallenge.mk
    <$> .required "provider" (·.provider) .string
    <*> .required "credentialsSecret" (·.credentialsSecret) .string
    <*> .optional "propagationSeconds" (·.propagationSeconds) .uint32

def codec : Codec DnsChallenge := record.codec .strict

end DnsChallenge

structure Spec where
  domains : List String
  email : Option String
  dnsChallenge : Option DnsChallenge
  token : Option ResourceRef
  deriving DecidableEq, Repr, Inhabited

namespace Spec

def record : Record Spec Spec :=
  Spec.mk
    <$> .required "domainNames" (·.domains) (.list .string)
    <*> .optional "letsencryptEmail" (·.email) .string
    <*> .optional "dnsChallenge" (·.dnsChallenge) DnsChallenge.codec
    <*> .optional "token" (·.token) ResourceRef.codec

def codec : Codec Spec := record.codec .strict

def check (spec : Spec) : Except Problem Unit := do
  Domain.check spec.domains
  match spec.dnsChallenge with
  | some challenge => if challenge.provider.isEmpty then throw .emptyDnsProvider
  | none => return

end Spec

structure Status where
  id : Option UInt32
  bound : Bool
  domains : List String
  expires : Option Instant
  conditions : List Condition
  deriving DecidableEq, Inhabited

namespace Status

def record : Record Status Status :=
  Status.mk
    <$> .optional "id" (·.id) .uint32
    <*> .defaulted "bound" (·.bound) .bool false
    <*> .listed "domainNames" (·.domains) .string
    <*> .optional "expiresOn" (·.expires) .instant
    <*> .listed "conditions" (·.conditions) Condition.codec

def codec : Codec Status := record.codec .strict

end Status

end LetsEncryptCertificate

namespace CustomCertificate

structure Spec where
  /-- The name shown on the remote server; without one it is the name of the resource. -/
  niceName : Option String
  secretName : String
  token : Option ResourceRef
  deriving DecidableEq, Repr, Inhabited

namespace Spec

def record : Record Spec Spec :=
  Spec.mk
    <$> .optional "niceName" (·.niceName) .string
    <*> .required "secretName" (·.secretName) .string
    <*> .optional "token" (·.token) ResourceRef.codec

def codec : Codec Spec := record.codec .strict

def check (spec : Spec) : Except Problem Unit :=
  if spec.secretName.isEmpty then .error .emptySecretName else .ok ()

end Spec

structure Status where
  id : Option UInt32
  domains : List String
  expires : Option Instant
  materialHash : Option String
  conditions : List Condition
  deriving DecidableEq, Inhabited

namespace Status

def record : Record Status Status :=
  Status.mk
    <$> .optional "id" (·.id) .uint32
    <*> .listed "domainNames" (·.domains) .string
    <*> .optional "expiresOn" (·.expires) .instant
    <*> .optional "materialHash" (·.materialHash) .string
    <*> .listed "conditions" (·.conditions) Condition.codec

def codec : Codec Status := record.codec .strict

end Status

end CustomCertificate

end ProxyOperator
