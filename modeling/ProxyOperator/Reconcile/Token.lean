import ProxyOperator.Reconcile.Credentials
import ProxyOperator.Text.Blank
/-!
Passes on tokens. A login is exchanged for a bearer token, and again before the bearer token expires or
when the token points to another server.
-/
namespace ProxyOperator

namespace Reconcile.Tokens

def nanosPerSecond : Int := 1000000000

/-- The least time between two passes, in nanoseconds. -/
def leastDelay : Nat := 60 * 1000000000

/-- Whether what expires does so within a margin from now on. A margin that is taken off moves an end in a leap
second on to the second after it; without a margin the end is compared as it is. -/
def endsWithin (expires now : Instant) (margin : Nat) : Bool :=
  if margin = 0 then expires ≤ now
  else expires.toNanos - margin * nanosPerSecond ≤ now.toNanos

/-- Whether a new bearer token is due: there is none, it was issued by another server, or it expires
within the margin. -/
def needsRefresh (token : Token) (now : Instant) (margin : Nat) : Bool :=
  match token.status with
  | none => true
  | some status =>
      status.bearer.isNone || status.endpoint ≠ some token.spec.endpoint ||
        match status.expires with
        | none => true
        | some expires => endsWithin expires now margin

def refreshDelay (expires now : Instant) (margin : Nat) : Nat :=
  let left :=
    if margin = 0 then now.nanosUntil expires
    else expires.toNanos - margin * nanosPerSecond - now.toNanos
  max left.toNat leastDelay

def issue (token : Token) : Staged Remote.Grant := do
  let own := token.metadata.spokenKey.namespace
  let reference := token.spec.secret
  let key : ObjectKey := ⟨own, reference.name⟩
  if (trimText token.spec.endpoint).isEmpty then Stage.check (.error .emptyEndpoint)
  let identity ← Stage.secret.run (secretText key reference.identityKey)
  let secret ← Stage.secret.run (secretText key reference.secretKey)
  Stage.token.run (Pass.requestToken token.spec.endpoint (trimText identity) secret)

def issued (context : Context) (endpoint : String) (grant : Remote.Grant) (status : Token.Status) :
    Token.Status :=
  { status with
    bearer := some grant.bearer
    expires := some grant.expires
    endpoint := some endpoint
    conditions := Condition.markReady context.stamp "bearer token issued" status.conditions }

def reconcile (context : Context) (token : Token) : Pass Action := do
  let margin := context.settings.refreshMargin
  if token.metadata.isDeleting then return .awaitChange
  else if needsRefresh token context.now margin then
    finish context token (issue token) fun grant => do
      announceDone token Event.tokenRefreshed ("valid until " ++ grant.expires.display)
      updateStatus context .token token.metadata.spokenKey
        (issued context token.spec.endpoint grant)
      return .requeue (refreshDelay grant.expires context.now margin)
  else
    let expires := (token.status.bind (·.expires)).getD context.now
    return .requeue (refreshDelay expires context.now margin)

end Reconcile.Tokens

end ProxyOperator
