import ProxyOperator.Manifest.Shared
import ProxyOperator.Resource.Certificate
/-!
Schemas of certificates.
-/
namespace ProxyOperator

namespace LetsEncryptCertificate

def DnsChallenge.schema : Schema :=
  .record "DNS-01 challenge configuration" [
    .required "provider" "DNS provider identifier understood by the proxy manager (e.g. `cloudflare`)"
      .text,
    .required "credentialsSecret"
      "Secret whose `credentials` key holds the provider credentials file" .text,
    .optional "propagationSeconds" "Seconds to wait for DNS propagation" (.unsigned 32)]

def Spec.about : String :=
  "LetsEncryptCertificate requests (or adopts) a Let's Encrypt certificate.\n\n" ++
  "Example: ```yaml apiVersion: npm.operator.io/v1alpha1 kind: LetsEncryptCertificate metadata: " ++
  "name: web-cert spec: domainNames: [a.example.com] letsencryptEmail: ops@example.com ```"

def Spec.schema : Schema :=
  .record about [
    .required "domainNames" "Domains covered by the certificate (1 to 10)" (.list .text),
    .optional "letsencryptEmail" "Contact email (defaults to the operator's configured email)" .text,
    .optional "dnsChallenge" "DNS-01 challenge configuration; HTTP-01 is used when unset"
      DnsChallenge.schema,
    .token]

def Status.schema : Schema :=
  .record "LetsEncryptCertificate status" [
    .remoteId "Remote certificate id",
    .off "bound" "Whether an existing remote certificate was adopted instead of requested",
    .listed "domainNames" "Domains the issued certificate covers" .text,
    .optional "expiresOn" "Certificate expiry" .instant,
    .conditions]

end LetsEncryptCertificate

namespace CustomCertificate

def Spec.about : String :=
  "CustomCertificate uploads certificate material from a Secret.\n\n" ++
  "Example: ```yaml apiVersion: npm.operator.io/v1alpha1 kind: CustomCertificate metadata: name: " ++
  "corp-wildcard spec: secretName: corp-wildcard-tls ```"

def Spec.schema : Schema :=
  .record about [
    .optional "niceName" "Display name on the remote side (defaults to the resource name)" .text,
    .required "secretName" "Secret holding `tls.crt`, `tls.key` and optionally `ca.crt`" .text,
    .token]

def Status.schema : Schema :=
  .record "CustomCertificate status" [
    .remoteId "Remote certificate id",
    .listed "domainNames" "Domains the uploaded certificate covers" .text,
    .optional "expiresOn" "Certificate expiry" .instant,
    .optional "materialHash" "Fingerprint of the last uploaded material" .text,
    .conditions]

end CustomCertificate

end ProxyOperator
