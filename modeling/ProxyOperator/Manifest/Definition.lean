import ProxyOperator.Manifest.AccessList
import ProxyOperator.Manifest.Certificate
import ProxyOperator.Manifest.ProxyHost
import ProxyOperator.Manifest.Stream
import ProxyOperator.Manifest.Token
import ProxyOperator.Resource.Basic
/-!
Definitions of the kinds of resources, as they are installed into a cluster before resources of these
kinds can be written.
-/
namespace ProxyOperator

structure Column where
  name : String
  type : String
  path : String
  deriving DecidableEq, Repr, Inhabited

namespace Column

def toJson (column : Column) : Json :=
  .object [("jsonPath", .string column.path), ("name", .string column.name),
    ("type", .string column.type)]

def remoteId : Column := ⟨"ID", "integer", ".status.id"⟩

def expiry : Column := ⟨"Expires", "string", ".status.expiresOn"⟩

def online : Column := ⟨"Online", "boolean", ".status.online"⟩

def age : Column := ⟨"Age", "date", ".metadata.creationTimestamp"⟩

end Column

namespace Kind

def specSchema : Kind → Schema
  | .proxyHost => ProxyHost.Spec.schema
  | .stream => Stream.Spec.schema
  | .token => Token.Spec.schema
  | .letsEncryptCertificate => LetsEncryptCertificate.Spec.schema
  | .customCertificate => CustomCertificate.Spec.schema
  | .accessList => AccessList.Spec.schema

def statusSchema : Kind → Schema
  | .proxyHost => ProxyHost.Status.schema
  | .stream => Stream.Status.schema
  | .token => Token.Status.schema
  | .letsEncryptCertificate => LetsEncryptCertificate.Status.schema
  | .customCertificate => CustomCertificate.Status.schema
  | .accessList => AccessList.Status.schema

def singular : Kind → String
  | .proxyHost => "proxyhost"
  | .stream => "stream"
  | .token => "token"
  | .letsEncryptCertificate => "letsencryptcertificate"
  | .customCertificate => "customcertificate"
  | .accessList => "accesslist"

def shortNames : Kind → List String
  | .proxyHost => ["ph"]
  | _ => []

def columns : Kind → List Column
  | .proxyHost =>
      [⟨"Domains", "string", ".spec.domainNames"⟩, .remoteId, ⟨"Bound", "boolean", ".status.bound"⟩,
        .online, .age]
  | .stream => [⟨"Port", "integer", ".spec.incomingPort"⟩, .remoteId, .online, .age]
  | .token =>
      [⟨"Endpoint", "string", ".spec.endpoint"⟩, ⟨"Expires", "string", ".status.expires"⟩, .age]
  | .letsEncryptCertificate => [.remoteId, .expiry, .age]
  | .customCertificate => [.remoteId, .expiry, .age]
  | .accessList => [.remoteId, .age]

/-- The order in which the kinds are installed: those that others refer to come first. -/
def installation : List Kind :=
  [.token, .accessList, .letsEncryptCertificate, .customCertificate, .proxyHost, .stream]

def schema (kind : Kind) : Json :=
  .object [
    ("description", .string
      ("Auto-generated derived type for " ++ kind.name ++ "Spec via `CustomResource`")),
    ("properties", .object [
      ("spec", kind.specSchema.toJson),
      ("status", Presence.nullable.mark kind.statusSchema.toJson)]),
    ("required", .strings ["spec"]),
    ("title", .string kind.name),
    ("type", .string "object")]

/-- The only version that is served. -/
def version (kind : Kind) : Json :=
  .object [
    ("additionalPrinterColumns", .array (kind.columns.map (·.toJson))),
    ("name", .string versionName),
    ("schema", .object [("openAPIV3Schema", kind.schema)]),
    ("served", .bool true),
    ("storage", .bool true),
    ("subresources", .object [("status", .object [])])]

def definition (kind : Kind) : Json :=
  .object [
    ("apiVersion", .string "apiextensions.k8s.io/v1"),
    ("kind", .string "CustomResourceDefinition"),
    ("metadata", .object [("name", .string (kind.plural ++ "." ++ groupName))]),
    ("spec", .object [
      ("group", .string groupName),
      ("names", .object [
        ("categories", .array []),
        ("kind", .string kind.name),
        ("plural", .string kind.plural),
        ("shortNames", .strings kind.shortNames),
        ("singular", .string kind.singular)]),
      ("scope", .string "Namespaced"),
      ("versions", .array [kind.version])])]

end Kind

def definitions : List Json := Kind.installation.map Kind.definition

end ProxyOperator
