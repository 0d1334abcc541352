import ProxyOperator.Resource.Condition
/-!
Tokens: a remote server and the login for it. The operator exchanges the login for a bearer token and
keeps it in the status, where the passes of all other resources find it.
-/
namespace ProxyOperator

namespace Token

/-- The Secret with the login, in the namespace of the token. -/
structure SecretRef where
  name : String
  identityKey : String
  secretKey : String
  deriving DecidableEq, Repr

namespace SecretRef

/-- The keys of a login when none are given. -/
def unnamed : SecretRef := ⟨"", "identity", "secret"⟩

instance : Inhabited SecretRef := ⟨unnamed⟩

def record : Record SecretRef SecretRef :=
  SecretRef.mk
    <$> .required "name" (·.name) .string
    <*> .defaulted "identityKey" (·.identityKey) .string "identity"
    <*> .defaulted "secretKey" (·.secretKey) .string "secret"

def codec : Codec SecretRef := record.codec .strict

end SecretRef

structure Spec where
  endpoint : String
  secret : SecretRef
  deriving DecidableEq, Repr, Inhabited

namespace Spec

def record : Record Spec Spec :=
  Spec.mk
    <$> .required "endpoint" (·.endpoint) .string
    <*> .required "secret" (·.secret) SecretRef.codec

def codec : Codec Spec := record.codec .strict

end Spec

structure Status where
  bearer : Option String
  expires : Option Instant
  endpoint : Option String
  conditions : List Condition
  deriving DecidableEq, Inhabited

namespace Status

def record : Record Status Status :=
  Status.mk
    <$> .optional "token" (·.bearer) .string
    <*> .optional "expires" (·.expires) .instant
    <*> .optional "endpoint" (·.endpoint) .string
    <*> .listed "conditions" (·.conditions) Condition.codec

def codec : Codec Status := record.codec .strict

/-- The bearer token, if it is still valid at an instant. -/
def usableBearer? (status : Status) (now : Instant) : Option String :=
  match status.bearer, status.expires with
  | some bearer, some expires => if now < expires then some bearer else none
  | _, _ => none

end Status

end Token

end ProxyOperator
