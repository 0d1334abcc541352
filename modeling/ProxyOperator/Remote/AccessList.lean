import ProxyOperator.Remote.Loose
import ProxyOperator.Time.Codec
/-!
Access lists of the remote server, and the bearer tokens it grants.
-/
namespace ProxyOperator

namespace Remote

/-- A user with a password. The server never reports passwords. -/
structure Login where
  username : String
  password : String
  deriving DecidableEq, Repr, Inhabited

namespace Login

def record : Record Login Login :=
  Login.mk
    <$> .required "username" (·.username) .string
    <*> .defaulted "password" (·.password) .string ""

def codec : Codec Login := record.codec .strict

end Login

structure Rule where
  address : String
  directive : String
  deriving DecidableEq, Repr, Inhabited

namespace Rule

def record : Record Rule Rule :=
  Rule.mk
    <$> .required "address" (·.address) .string
    <*> .required "directive" (·.directive) .string

def codec : Codec Rule := record.codec .strict

end Rule

structure AccessList where
  id : UInt32
  name : String
  satisfyAny : Bool
  passAuth : Bool
  deriving DecidableEq, Repr, Inhabited

namespace AccessList

def record : Record AccessList AccessList :=
  AccessList.mk
    <$> .required "id" (·.id) .uint32
    <*> .defaulted "name" (·.name) .string ""
    <*> .defaulted "satisfy_any" (·.satisfyAny) .looseFlag false
    <*> .defaulted "pass_auth" (·.passAuth) .looseFlag false

def codec : Codec AccessList := record.codec .strict

structure Payload where
  name : String
  satisfyAny : Bool
  passAuth : Bool
  logins : List Login
  rules : List Rule
  deriving DecidableEq, Repr, Inhabited

namespace Payload

def record : Record Payload Payload :=
  Payload.mk
    <$> .defaulted "name" (·.name) .string ""
    <*> .defaulted "satisfy_any" (·.satisfyAny) .bool false
    <*> .defaulted "pass_auth" (·.passAuth) .bool false
    <*> .defaulted "items" (·.logins) (.list Login.codec) []
    <*> .defaulted "clients" (·.rules) (.list Rule.codec) []

def codec : Codec Payload := record.codec .strict

end Payload

end AccessList

structure Grant where
  bearer : String
  expires : Instant
  deriving DecidableEq, Inhabited

namespace Grant

def record : Record Grant Grant :=
  Grant.mk
    <$> .required "token" (·.bearer) .string
    <*> .required "expires" (·.expires) .instant

def codec : Codec Grant := record.codec .strict

end Grant

end Remote

end ProxyOperator
