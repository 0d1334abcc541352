import ProxyOperator.Reconcile.Credentials
import ProxyOperator.Remote.Search
/-!
Passes on certificates. One kind asks the remote server to have a certificate issued for its domains, or
takes one that is there; the other makes an empty certificate and uploads the material of a Secret into
it, again whenever the material has changed.
-/
namespace ProxyOperator

namespace Reconcile.LetsEncryptCertificates

structure Converged where
  remote : Remote.Certificate
  bound : Bool
  /-- What to tell about, if anything. -/
  reason : Option String
  deriving DecidableEq, Repr

def credentialsField : String := "credentials"

def withChallenge («namespace» : String)
    (challenge : Option LetsEncryptCertificate.DnsChallenge)
    (payload : Remote.Certificate.Payload) : Pass Remote.Certificate.Payload := do
  match challenge with
  | none => return payload
  | some challenge =>
      let credentials ← secretText ⟨«namespace», challenge.credentialsSecret⟩ credentialsField
      let terms : Remote.Terms :=
        { payload.terms with
          dnsChallenge := true
          dnsProvider := some challenge.provider
          dnsCredentials := some credentials
          propagationSeconds := challenge.propagationSeconds }
      return { payload with terms := terms }

def request (context : Context) (session : Remote.Session) (certificate : LetsEncryptCertificate) :
    Staged Remote.Certificate := do
  let spec := certificate.spec
  let email ← Stage.declaration.run <|
    Pass.demand (.invalid "letsencryptEmail is required when no default is configured")
      (spec.email <|> context.settings.defaultEmail)
  let payload ← Stage.secret.run <|
    withChallenge certificate.metadata.spokenKey.namespace spec.dnsChallenge
      (.issue spec.domains email)
  Stage.remote.run (session.create .certificates payload)

/-- Find the remote certificate on record, or one for just these domains, or request one. -/
def converge (context : Context) (certificate : LetsEncryptCertificate) : Staged Converged := do
  let spec := certificate.spec
  let status := certificate.statusOrEmpty
  Stage.check spec.check
  let session ← Stage.token.run <|
    connect context spec.token certificate.metadata.spokenKey.namespace
  match status.id with
  | some id => return ⟨← Stage.remote.run (session.get .certificates id), status.bound, none⟩
  | none =>
      let listed ← Stage.adoption.run (session.list .certificates)
      match Remote.findExactCertificate spec.domains listed with
      | some remote => return ⟨remote, true, some Event.adopted⟩
      | none => return ⟨← request context session certificate, false, some Event.created⟩

def synced (context : Context) (outcome : Converged) (status : LetsEncryptCertificate.Status) :
    LetsEncryptCertificate.Status :=
  { status with
    id := some outcome.remote.id
    bound := outcome.bound
    domains := outcome.remote.domains
    expires := outcome.remote.expires?
    conditions := Condition.markReady context.stamp "certificate is issued" status.conditions }

/-- What to do when a certificate is deleted, if it has a remote certificate of its own. -/
def cleanup (context : Context) (certificate : LetsEncryptCertificate) : Option (Pass String) :=
  let status := certificate.statusOrEmpty
  (if status.bound then none else status.id).map <|
    deleteOwned context certificate.spec.token certificate.metadata.spokenKey.namespace
      .certificates

def reconcile (context : Context) (certificate : LetsEncryptCertificate) : Pass Action := do
  if certificate.metadata.isDeleting then dismiss certificate (cleanup context certificate)
  else
    hold certificate
    finish context certificate (converge context certificate) fun outcome => do
      match outcome.reason with
      | some reason =>
          announceDone certificate reason
            ("remote certificate " ++ toString outcome.remote.id.toNat)
      | none => pure ()
      updateStatus context .letsEncryptCertificate certificate.metadata.spokenKey
        (synced context outcome)
      return .resync context

end Reconcile.LetsEncryptCertificates

namespace Reconcile.CustomCertificates

structure Converged where
  remote : Remote.Certificate
  fingerprint : String
  /-- Whether the material was uploaded in this pass. -/
  uploaded : Bool
  deriving DecidableEq, Repr

def requiredText (secret : Secret) (field : String) : Except Failure String := do
  match ← secret.text? field with
  | some text => return text
  | none =>
      throw <| .reference <|
        "secret " ++ secret.metadata.name.getD "" ++ " has no key " ++ field

def material (secret : Secret) : Except Failure Remote.Material := do
  let certificate ← requiredText secret "tls.crt"
  let key ← requiredText secret "tls.key"
  return ⟨certificate, key, ← secret.text? "ca.crt"⟩

def readMaterial (certificate : CustomCertificate) : Pass Remote.Material := do
  let key : ObjectKey := ⟨certificate.metadata.spokenKey.namespace, certificate.spec.secretName⟩
  orFail (material (← secret key))

/-- Make an empty remote certificate, and record it before anything else can fail. -/
def make (context : Context) (session : Remote.Session) (certificate : CustomCertificate) :
    Pass UInt32 := do
  let key := certificate.metadata.spokenKey
  let remote ← session.create .certificates (.empty (certificate.spec.niceName.getD key.name))
  updateStatus context .customCertificate key fun status => { status with id := some remote.id }
  return remote.id

def converge (context : Context) (certificate : CustomCertificate) : Staged Converged := do
  let spec := certificate.spec
  let status := certificate.statusOrEmpty
  Stage.check spec.check
  let material ← Stage.secret.run (readMaterial certificate)
  let fingerprint := material.fingerprint
  let session ← Stage.token.run <|
    connect context spec.token certificate.metadata.spokenKey.namespace
  let id ←
    match status.id with
    | some id => pure id
    | none => Stage.remote.run (make context session certificate)
  let due := status.id.isNone || status.materialHash ≠ some fingerprint
  if due then Stage.remote.run (session.upload id material)
  return ⟨← Stage.remote.run (session.get .certificates id), fingerprint, due⟩

def synced (context : Context) (outcome : Converged) (status : CustomCertificate.Status) :
    CustomCertificate.Status :=
  { status with
    id := some outcome.remote.id
    domains := outcome.remote.domains
    expires := outcome.remote.expires?
    materialHash := some outcome.fingerprint
    conditions :=
      Condition.markReady context.stamp "certificate material is uploaded" status.conditions }

def cleanup (context : Context) (certificate : CustomCertificate) : Option (Pass String) :=
  (certificate.status.bind (·.id)).map <|
    deleteOwned context certificate.spec.token certificate.metadata.spokenKey.namespace
      .certificates

def reconcile (context : Context) (certificate : CustomCertificate) : Pass Action := do
  if certificate.metadata.isDeleting then dismiss certificate (cleanup context certificate)
  else
    hold certificate
    finish context certificate (converge context certificate) fun outcome => do
      if outcome.uploaded then
        announceDone certificate Event.certificateUploaded
          ("remote certificate " ++ toString outcome.remote.id.toNat)
      updateStatus context .customCertificate certificate.metadata.spokenKey
        (synced context outcome)
      return .resync context

end Reconcile.CustomCertificates

end ProxyOperator
