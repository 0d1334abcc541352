import ProxyOperator.Manifest.Shared
import ProxyOperator.Resource.ProxyHost
/-!
Schemas of proxy hosts.
-/
namespace ProxyOperator

namespace ProxyHost

def Ssl.about : String :=
  "TLS configuration for a proxy host.\n\nCertificate sources are checked in this order and the first " ++
  "populated one wins: `letsencryptCertificate`, `customCertificate`, `certificateId`, " ++
  "`autoCertificateRequest`."

def Ssl.schema : Schema :=
  .record about [
    .optional "certificateId" "Remote certificate id, used as-is" (.unsigned 32),
    .optional "customCertificate" "CustomCertificate resource providing the certificate"
      ResourceRef.schema,
    .optional "letsencryptCertificate" "LetsEncryptCertificate resource providing the certificate"
      ResourceRef.schema,
    .off "autoCertificateRequest" "Find or request a certificate covering the host's domains",
    .optional "letsencryptEmail" "Contact email for automatically requested certificates" .text,
    .off "sslForced" "Redirect HTTP to HTTPS",
    .off "http2Support" "Enable HTTP/2",
    .off "hstsEnabled" "Send Strict-Transport-Security",
    .off "hstsSubdomains" "Include subdomains in HSTS"]

def AccessRef.schema : Schema :=
  .record "Access list reference: an explicit remote id or an AccessList resource" [
    .optional "id" "Remote access list id" (.unsigned 32),
    .optional "name" "AccessList resource name" .text,
    .optional "namespace" "AccessList resource namespace (defaults to the referrer's namespace)" .text]

def Location.schema : Schema :=
  .record "A sub-location of a proxy host" [
    .required "path" "Location path (e.g. `/api`)" .text,
    .required "forward" "Forward target for this location" Forward.schema]

def Spec.about : String :=
  "ProxyHost declares a virtual host on the remote proxy manager.\n\n" ++
  "Example: ```yaml apiVersion: npm.operator.io/v1alpha1 kind: ProxyHost metadata: name: web spec: " ++
  "domainNames: [a.example.com] forward: service: name: web ssl: autoCertificateRequest: true " ++
  "sslForced: true ```"

def Spec.schema : Schema :=
  .record about [
    .required "domainNames" "Domains served by this host (1 to 10, unique across all ProxyHosts)"
      (.list .text),
    .required "forward" "Forward target" Forward.schema,
    .optional "ssl" "TLS configuration" Ssl.schema,
    .optional "accessList" "Access list applied to the host" AccessRef.schema,
    .off "cachingEnabled" "Enable asset caching",
    .off "blockExploits" "Block common exploits",
    .off "allowWebsocketUpgrade" "Allow websocket upgrades",
    .listed "locations" "Sub-locations with their own forward targets" Location.schema,
    .optional "advancedConfig" "Raw nginx configuration for the server block" .text,
    .off "bindExisting"
      ("Adopt an existing remote proxy host serving the same domains instead of creating a new one. " ++
        "Adopted hosts are restored, never deleted."),
    .token]

def LocationSnapshot.schema : Schema :=
  .record "Snapshot of one remote location block" [
    .required "path" "Location path" .text,
    .required "forwardScheme" "Forward scheme" .text,
    .required "forwardHost" "Forward host" .text,
    .required "forwardPort" "Forward port" (.unsigned 16),
    .defaulted "advancedConfig" "Raw nginx configuration" .text (.string "")]

def Snapshot.schema : Schema :=
  .record "Snapshot of a remote proxy host's mutable fields, taken at adoption" [
    .required "domainNames" "Domains the remote host served" (.list .text),
    .required "forwardScheme" "Forward scheme" .text,
    .required "forwardHost" "Forward host" .text,
    .required "forwardPort" "Forward port" (.unsigned 16),
    .required "accessListId" "Access list id (0 = none)" (.unsigned 32),
    .required "certificateId" "Certificate id (0 = none)" (.unsigned 32),
    .required "sslForced" "Redirect HTTP to HTTPS" .flag,
    .required "http2Support" "HTTP/2 enabled" .flag,
    .required "hstsEnabled" "HSTS enabled" .flag,
    .required "hstsSubdomains" "HSTS on subdomains" .flag,
    .required "cachingEnabled" "Asset caching enabled" .flag,
    .required "blockExploits" "Exploit blocking enabled" .flag,
    .required "allowWebsocketUpgrade" "Websocket upgrades allowed" .flag,
    .required "advancedConfig" "Raw nginx configuration" .text,
    .optional "unscopedConfig"
      "Configuration outside the server block, on servers that support it" .text,
    .required "enabled" "Whether the host was enabled" .flag,
    .defaulted "locations" "Location blocks" (.list LocationSnapshot.schema) (.array [])]

def Status.schema : Schema :=
  .record "ProxyHost status" [
    .remoteId "Remote proxy host id (immutable once set)",
    .off "bound" "Whether this resource adopted a pre-existing remote proxy host",
    .optional "initialConfiguration"
      "Remote configuration captured when the host was first adopted" Snapshot.schema,
    .off "online" "Whether the remote proxy reports the host's nginx config as online",
    .optional "certificateId" "Resolved remote certificate id" (.unsigned 32),
    .off "certificateBound" "Whether the certificate was found rather than requested by this resource",
    .observedGeneration,
    .conditions]

end ProxyHost

end ProxyOperator
