import ProxyOperator.Manifest.Shared
import ProxyOperator.Resource.Token
/-!
Schemas of tokens.
-/
namespace ProxyOperator

namespace Token

def SecretRef.schema : Schema :=
  .record "Location of the login credential" [
    .required "name" "Secret name (same namespace as the Token)" .text,
    .defaulted "identityKey" "Key holding the login identity (email)" .text
      (.string SecretRef.unnamed.identityKey),
    .defaulted "secretKey" "Key holding the password" .text (.string SecretRef.unnamed.secretKey)]

def Spec.about : String :=
  "Token identifies a remote proxy manager and the credential to log in with.\n\n" ++
  "Example: ```yaml apiVersion: npm.operator.io/v1alpha1 kind: Token metadata: name: npm spec: " ++
  "endpoint: http://nginx-proxy-manager.proxy:81 secret: name: npm-admin ```"

def Spec.schema : Schema :=
  .record about [
    .required "endpoint" "Base URL of the remote proxy manager" .text,
    .required "secret" "Secret holding the login credential" SecretRef.schema]

def Status.schema : Schema :=
  .record "Token status" [
    .optional "token" "Current bearer token" .text,
    .optional "expires" "Bearer token expiry" .instant,
    .optional "endpoint" "Endpoint the bearer was issued by" .text,
    .conditions]

end Token

end ProxyOperator
