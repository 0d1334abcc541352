import ProxyOperator.Encoding.Sha256
import ProxyOperator.Encoding.Utf8
import ProxyOperator.Remote.Loose
import ProxyOperator.Time.Reader
/-!
Certificates of the remote server: what it reports of them, what it is sent to have one issued or made,
and the material that is uploaded into one.
-/
namespace ProxyOperator

namespace Remote

structure Terms where
  email : Option String
  agreed : Bool
  /-- The ownership of the domains is shown through the domain name system. -/
  dnsChallenge : Bool
  dnsProvider : Option String
  dnsCredentials : Option String
  propagationSeconds : Option UInt32
  deriving DecidableEq, Repr, Inhabited

namespace Terms

def record : Record Terms Terms :=
  Terms.mk
    <$> .optional "letsencrypt_email" (·.email) .string
    <*> .defaulted "letsencrypt_agree" (·.agreed) .looseFlag false
    <*> .defaulted "dns_challenge" (·.dnsChallenge) .looseFlag false
    <*> .optional "dns_provider" (·.dnsProvider) .string
    <*> .optional "dns_provider_credentials" (·.dnsCredentials) .string
    <*> .optional "propagation_seconds" (·.propagationSeconds) .uint32

def codec : Codec Terms := record.codec .strict

end Terms

structure Certificate where
  id : UInt32
  provider : String
  niceName : String
  domains : List String
  expiresOn : Option String
  terms : Terms
  deriving DecidableEq, Repr, Inhabited

namespace Certificate

def record : Record Certificate Certificate :=
  Certificate.mk
    <$> .required "id" (·.id) .uint32
    <*> .defaulted "provider" (·.provider) .string ""
    <*> .defaulted "nice_name" (·.niceName) .string ""
    <*> .defaulted "domain_names" (·.domains) (.list .string) []
    <*> .defaulted "expires_on" (·.expiresOn) (.nullable .string) none
    <*> .defaulted "meta" (·.terms) Terms.codec default

def codec : Codec Certificate := record.codec .strict

/-- When it expires, if the server said so in words that can be read. -/
def expires? (certificate : Certificate) : Option Instant :=
  certificate.expiresOn.bind Instant.ofRemote?

structure Payload where
  provider : String
  /-- Left out if empty. -/
  niceName : String
  domains : List String
  terms : Terms
  deriving DecidableEq, Repr, Inhabited

namespace Payload

def record : Record Payload Payload :=
  Payload.mk
    <$> .defaulted "provider" (·.provider) .string ""
    <*> .member "nice_name"
      (fun payload => if payload.niceName.isEmpty then none else some (.string payload.niceName))
      Codec.string.decode (.ok "")
    <*> .defaulted "domain_names" (·.domains) (.list .string) []
    <*> .defaulted "meta" (·.terms) Terms.codec default

def codec : Codec Payload := record.codec .strict

def issue (domains : List String) (email : String) : Payload :=
  ⟨"letsencrypt", "", domains, { (default : Terms) with email := some email, agreed := true }⟩

def empty (niceName : String) : Payload := ⟨"other", niceName, [], default⟩

end Payload

end Certificate

structure Material where
  certificate : String
  key : String
  chain : Option String
  deriving DecidableEq, Repr, Inhabited

namespace Material

def record : Record Material Material :=
  Material.mk
    <$> .defaulted "certificate" (·.certificate) .string ""
    <*> .defaulted "certificate_key" (·.key) .string ""
    <*> .defaulted "intermediate_certificate" (·.chain) (.nullable .string) none

def codec : Codec Material := record.codec .strict

/-- The bytes a fingerprint is taken of: the parts with a zero byte between them. -/
def bytes (material : Material) : List UInt8 :=
  Utf8.encode material.certificate ++ 0 :: (Utf8.encode material.key ++ 0 ::
    (material.chain.map Utf8.encode).getD [])

def fingerprint (material : Material) : String := Sha256.hexDigest material.bytes

end Material

end Remote

end ProxyOperator
