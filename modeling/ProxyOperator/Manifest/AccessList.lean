import ProxyOperator.Manifest.Shared
import ProxyOperator.Resource.AccessList
/-!
Schemas of access lists.
-/
namespace ProxyOperator

namespace AccessList

def Authorization.schema : Schema :=
  .record "One basic-auth user" [
    .required "username" "Username" .text,
    .required "password" "Secret key holding the password" SecretKeyRef.schema]

def Client.schema : Schema :=
  .record "One client address rule" [
    .required "address" "IP address or CIDR (or `all`)" .text,
    .defaulted "directive" "Allow or deny matching clients"
      (.choice [Directive.allow.name, Directive.deny.name]) (.string Directive.allow.name)]

def Spec.about : String :=
  "AccessList declares basic-auth users and client address rules.\n\n" ++
  "Example: ```yaml apiVersion: npm.operator.io/v1alpha1 kind: AccessList metadata: name: office " ++
  "spec: satisfyAny: true authorizations: - username: admin password: name: office-auth key: admin " ++
  "clients: - address: 10.0.0.0/8 directive: allow ```"

def Spec.schema : Schema :=
  .record about [
    .off "satisfyAny" "Allow access when either auth or a client rule matches",
    .off "passAuth" "Pass the Authorization header through to the backend",
    .listed "authorizations" "Basic-auth users" Authorization.schema,
    .listed "clients" "Client address rules, evaluated in order" Client.schema,
    .token]

def Status.schema : Schema :=
  .record "AccessList status" [
    .remoteId "Remote access list id",
    .conditions]

end AccessList

end ProxyOperator
