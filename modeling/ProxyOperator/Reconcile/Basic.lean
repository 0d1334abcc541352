import ProxyOperator.Effect
/-!
What the passes of all kinds have in common: the stages at which a pass may fail, the writing of
statuses, and the release of resources that are deleted.
-/
namespace ProxyOperator

structure Context where
  settings : Settings
  now : Instant
  stamp : Instant
  deriving Inhabited

inductive Action where
  /-- Repeat it after a delay in nanoseconds, or when something changes before that. -/
  | requeue (nanos : Nat)
  /-- Repeat it when something changes. -/
  | awaitChange
  deriving DecidableEq, Repr

namespace Action

def requeueSeconds (seconds : Nat) : Action := .requeue (seconds * 1000000000)

def resync (context : Context) : Action := requeueSeconds context.settings.resyncSeconds.toNat

/-- Repeat a pass that failed, whatever the failure. -/
def afterFailure (settings : Settings) : Action := requeueSeconds settings.requeueSeconds.toNat

end Action

inductive Stage where
  | declaration
  | token
  /-- Other declarations may claim the same domains or port. -/
  | claim
  | forward
  | certificate
  | accessList
  | adoption
  | secret
  | remote
  deriving DecidableEq, Repr

def Stage.reason : Stage → String
  | .declaration => "InvalidSpec"
  | .token => "TokenUnavailable"
  | .claim => "DomainConflict"
  | .forward => "ForwardResolutionFailed"
  | .certificate => "CertificateResolutionFailed"
  | .accessList => "AccessListResolutionFailed"
  | .adoption => "AdoptionFailed"
  | .secret => "SecretUnavailable"
  | .remote => "RemoteSyncFailed"

structure StageFailure where
  stage : Stage
  failure : Failure
  deriving DecidableEq, Repr

def StageFailure.text (stopped : StageFailure) : String :=
  stopped.stage.reason ++ ": " ++ stopped.failure.message

abbrev Staged (α : Type) := ExceptT StageFailure (Program Effects) α

namespace Stage

variable {α : Type}

def run (stage : Stage) (pass : Pass α) : Staged α :=
  ExceptT.adapt (fun failure => ⟨stage, failure⟩) pass

def check : Except Problem Unit → Staged Unit
  | .ok _ => pure ()
  | .error problem => throw ⟨.declaration, .invalid problem.message⟩

end Stage

namespace Reconcile

variable {kind : Kind} {α : Type}

/-- Change the status of a resource. The change is applied to the latest revision, and applied anew if
another writer is faster; a resource that is gone is left alone. -/
def updateStatus (context : Context) (kind : Kind) (key : ObjectKey)
    (change : kind.Status → kind.Status) : Pass Unit :=
  Pass.retry context.settings.statusRetry Failure.isConflict do
    match ← Pass.read kind key with
    | none => return
    | some latest =>
        Pass.writeStatus kind key latest.metadata.resourceVersion (change latest.statusOrEmpty)

def announce (resource : Resource kind) (type : EventType) (reason action : String)
    (note : Option String) : Pass Unit :=
  Pass.publish ⟨resource.reference, type, reason, action, note⟩

def announceDone (resource : Resource kind) (reason note : String) : Pass Unit :=
  announce resource .normal reason Event.reconcile (some note)

/-- Hold a resource back from deletion, unless it is held back already. -/
def hold (resource : Resource kind) : Pass Unit := do
  unless resource.isHeld do
    Pass.addFinalizer kind resource.metadata.spokenKey

/-- Record in the status that a pass failed. If the status cannot be written, so be it. -/
def recordFailure (context : Context) (resource : Resource kind) (stopped : StageFailure) :
    Pass Unit := do
  let outcome := updateStatus context kind resource.metadata.spokenKey <|
    kind.mapConditions <|
      Condition.markError context.stamp resource.metadata.generation stopped.stage.reason
        stopped.failure.message
  let _ ← ExceptT.lift outcome.run

def announcesFailure : Kind → Bool
  | .proxyHost => true
  | .stream => true
  | .accessList => true
  | .token => false
  | .letsEncryptCertificate => false
  | .customCertificate => false

/-- Finish a pass: with what its outcome calls for, or by recording its failure. -/
def finish (context : Context) (resource : Resource kind) (converge : Staged α)
    (succeed : α → Pass Action) : Pass Action := do
  match ← ExceptT.lift converge.run with
  | .ok outcome => succeed outcome
  | .error stopped =>
      if announcesFailure kind then
        announce resource .warning Event.syncFailed Event.reconcile (some stopped.text)
      recordFailure context resource stopped
      throw stopped.failure

/-- Release a resource that is deleted, after its remote object was dealt with if there is one. A
failure to do so is told about and does not hold the resource back. -/
def release (resource : Resource kind) (cleanup : Option (Pass String)) : Pass Action := do
  match cleanup with
  | none => pure ()
  | some cleanup =>
      match ← ExceptT.lift cleanup.run with
      | .ok reason => announce resource .normal reason Event.delete none
      | .error failure =>
          announce resource .warning Event.cleanupFailed Event.delete (some failure.message)
  Pass.removeFinalizer kind resource.metadata.spokenKey
  return .awaitChange

/-- Deal with a resource that is deleted: only if it is held back for the operator. -/
def dismiss (resource : Resource kind) (cleanup : Option (Pass String)) : Pass Action :=
  if resource.isHeld then release resource cleanup else return .awaitChange

end Reconcile

end ProxyOperator
