import ProxyOperator.Resource.Condition
import ProxyOperator.Resource.Reference
import ProxyOperator.Resource.Problem
/-!
Access lists: the users and the client addresses that may pass.
-/
namespace ProxyOperator

namespace AccessList

inductive Directive where
  | allow
  | deny
  deriving DecidableEq, Repr, Inhabited

namespace Directive

def name : Directive → String
  | .allow => "allow"
  | .deny => "deny"

def codec : Codec Directive := .choice [("allow", .allow), ("deny", .deny)] name

end Directive

/-- A user with a password held in a Secret. -/
structure Authorization where
  username : String
  password : SecretKeyRef
  deriving DecidableEq, Repr, Inhabited

namespace Authorization

def record : Record Authorization Authorization :=
  Authorization.mk
    <$> .required "username" (·.username) .string
    <*> .required "password" (·.password) SecretKeyRef.codec

def codec : Codec Authorization := record.codec .strict

end Authorization

structure Client where
  address : String
  directive : Directive
  deriving DecidableEq, Repr, Inhabited

namespace Client

def record : Record Client Client :=
  Client.mk
    <$> .required "address" (·.address) .string
    <*> .defaulted "directive" (·.directive) Directive.codec .allow

def codec : Codec Client := record.codec .strict

end Client

structure Spec where
  /-- One matching rule is enough. -/
  satisfyAny : Bool
  /-- Hand the credentials on to the backend. -/
  passAuth : Bool
  authorizations : List Authorization
  /-- Checked in this order. -/
  clients : List Client
  token : Option ResourceRef
  deriving DecidableEq, Repr, Inhabited

namespace Spec

def record : Record Spec Spec :=
  Spec.mk
    <$> .defaulted "satisfyAny" (·.satisfyAny) .bool false
    <*> .defaulted "passAuth" (·.passAuth) .bool false
    <*> .listed "authorizations" (·.authorizations) Authorization.codec
    <*> .listed "clients" (·.clients) Client.codec
    <*> .optional "token" (·.token) ResourceRef.codec

def codec : Codec Spec := record.codec .strict

def check (spec : Spec) : Except Problem Unit :=
  if spec.authorizations.isEmpty ∧ spec.clients.isEmpty then .error .noRules
  else if spec.authorizations.any (·.username.isEmpty) then .error .emptyUsername
  else .ok ()

end Spec

structure Status where
  id : Option UInt32
  conditions : List Condition
  deriving DecidableEq, Inhabited

namespace Status

def record : Record Status Status :=
  Status.mk
    <$> .optional "id" (·.id) .uint32
    <*> .listed "conditions" (·.conditions) Condition.codec

def codec : Codec Status := record.codec .strict

end Status

end AccessList

end ProxyOperator
