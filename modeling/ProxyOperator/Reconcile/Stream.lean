import ProxyOperator.Reconcile.Adoption
import ProxyOperator.Reconcile.Claim
import ProxyOperator.Target
/-!
Passes on streams. They go the same way as those on proxy hosts, but a stream cannot carry upstream
blocks, so of several backends the first is taken.
-/
namespace ProxyOperator

namespace Reconcile.Streams

structure Converged where
  id : UInt32
  bound : Bool
  online : Bool
  deriving DecidableEq, Repr

def payload (stream : Stream) (target : Target) : Remote.Stream.Payload where
  incomingPort := stream.spec.incomingPort
  host := target.host
  port := target.port
  tcp := stream.spec.tcp
  udp := stream.spec.udp

/-- Make sure that nobody else claimed the port first. -/
def checkClaims (stream : Stream) : Pass Unit := do
  match stream.rival? (← Pass.listAll .stream) with
  | none => return
  | some rival =>
      throw <| .invalid <|
        "incoming port " ++ toString stream.spec.incomingPort.toNat ++
          " is already claimed by Stream " ++ rival.metadata.spokenKey.text

def converge (context : Context) (stream : Stream) : Staged Converged := do
  let spec := stream.spec
  let own := stream.metadata.spokenKey
  Stage.check spec.check
  let session ← Stage.token.run (connect context spec.token own.namespace)
  Stage.claim.run (checkClaims stream)
  let (existing, bound) ← Adopting.streams.findRemote context session stream
  let target ← Stage.forward.run (Target.resolve own false spec.forward)
  let remote ← Stage.remote.run <|
    Adopting.streams.write context session stream existing (payload stream target)
  unless remote.enabled do
    Stage.remote.run (session.enable .streams remote.id)
  return ⟨remote.id, bound, remote.health.online⟩

def synced (context : Context) (generation : Option Int64) (outcome : Converged)
    (status : Stream.Status) : Stream.Status :=
  { status with
    id := some outcome.id
    bound := outcome.bound
    online := outcome.online
    observedGeneration := generation
    conditions := Condition.markReady context.stamp "remote stream is in sync" status.conditions }

/-- Report that a pass has begun, once for each generation. -/
def begin (context : Context) (stream : Stream) : Pass Unit := do
  let status := stream.statusOrEmpty
  let generation := stream.metadata.generation
  if Condition.shouldMarkReconciling status.conditions status.observedGeneration generation then
    updateStatus context .stream stream.metadata.spokenKey <|
      Kind.stream.mapConditions <|
        Condition.markReconciling context.stamp generation "converging remote stream"

def reconcile (context : Context) (stream : Stream) : Pass Action := do
  if stream.metadata.isDeleting then dismiss stream (Adopting.streams.cleanup context stream)
  else
    hold stream
    begin context stream
    finish context stream (converge context stream) fun outcome => do
      updateStatus context .stream stream.metadata.spokenKey
        (synced context stream.metadata.generation outcome)
      return .resync context

end Reconcile.Streams

end ProxyOperator
