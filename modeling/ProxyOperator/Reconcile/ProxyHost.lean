import ProxyOperator.Reconcile.Adoption
import ProxyOperator.Reconcile.Claim
import ProxyOperator.Reconcile.HostAccess
import ProxyOperator.Reconcile.HostCertificate
import ProxyOperator.Target
/-!
Passes on proxy hosts. A pass checks the declaration and the claims of others, finds the remote host,
resolves what the declaration refers to, and makes or changes the remote host accordingly.
-/
namespace ProxyOperator

namespace Reconcile.ProxyHosts

structure Converged where
  id : UInt32
  bound : Bool
  online : Bool
  certificate : HostCertificate
  deriving DecidableEq, Repr

structure Targets where
  main : Target
  locations : List Remote.Location
  upstreams : UpstreamSet

def located (location : ProxyHost.Location) (target : Target) : Remote.Location :=
  ⟨location.path, target.scheme.name, target.host, target.port, target.advancedConfig⟩

def resolveTargets (host : ProxyHost) (unscoped : Bool) : Pass Targets := do
  let owner := host.metadata.spokenKey
  let main ← Target.resolve owner unscoped host.spec.forward
  let locations ← host.spec.locations.mapM fun location => do
    return (location, ← Target.resolve owner unscoped location.forward)
  return {
    main
    locations := locations.map fun resolved => located resolved.1 resolved.2
    upstreams := locations.foldl (fun set resolved => set.insertAny resolved.2.upstream)
      (UpstreamSet.empty.insertAny main.upstream) }

def joinConfigs (configs : List String) : String :=
  "\n".intercalate (configs.filter fun config => !config.isEmpty)

/-- The body that is sent for a host. Without a certificate all that needs one is off; the blocks are
sent only to servers that accept them. -/
def payload (host : ProxyHost) (targets : Targets) (certificate : HostCertificate)
    (accessListId : Option UInt32) (unscoped : Bool) : Remote.Host.Payload :=
  let spec := host.spec
  let ssl := spec.ssl.getD default
  let secured := certificate.id.isSome
  { domains := spec.domains
    scheme := targets.main.scheme.name
    host := targets.main.host
    port := targets.main.port
    accessListId
    certificateId := certificate.id
    sslForced := secured && ssl.forced
    caching := spec.caching
    blockExploits := spec.blockExploits
    websockets := spec.websockets
    http2 := secured && ssl.http2
    hsts := secured && ssl.hsts
    hstsSubdomains := secured && ssl.hstsSubdomains
    advancedConfig := joinConfigs [spec.advancedConfig.getD "", targets.main.advancedConfig]
    locations := targets.locations
    unscopedConfig := if unscoped then some targets.upstreams.render else none }

/-- Make sure that nobody else claimed a domain first. -/
def checkClaims (host : ProxyHost) : Pass Unit := do
  match host.rival? (← Pass.listAll .proxyHost) with
  | none => return
  | some (rival, domain) =>
      throw <| .invalid <|
        "domain " ++ domain ++ " is already claimed by ProxyHost " ++ rival.metadata.spokenKey.text

/-- Send what could not be sent before the server had shown that it accepts upstream blocks. -/
def upgrade (session : Remote.Session) (host : ProxyHost) (certificate : HostCertificate)
    (accessListId : Option UInt32) (remote : Remote.Host) : Staged Remote.Host := do
  let targets ← Stage.forward.run (resolveTargets host true)
  if targets.upstreams.isEmpty then return remote
  else
    Stage.remote.run <|
      session.update .proxyHosts remote.id (payload host targets certificate accessListId true)

def converge (context : Context) (host : ProxyHost) : Staged Converged := do
  let spec := host.spec
  let own := host.metadata.spokenKey.namespace
  Stage.check spec.check
  let session ← Stage.token.run (connect context spec.token own)
  Stage.claim.run (checkClaims host)
  let (existing, bound) ← Adopting.proxyHosts.findRemote context session host
  let unscoped := existing.any (·.showsUnscopedConfig)
  let certificate ← Stage.certificate.run <|
    HostCertificate.resolve session spec.ssl spec.domains own context.settings.defaultEmail
  let accessListId ← Stage.accessList.run (HostAccess.resolve session spec.accessList own)
  let targets ← Stage.forward.run (resolveTargets host unscoped)
  let first ← Stage.remote.run <|
    Adopting.proxyHosts.write context session host existing
      (payload host targets certificate accessListId unscoped)
  let remote ←
    if !unscoped && first.showsUnscopedConfig then
      upgrade session host certificate accessListId first
    else pure first
  unless remote.enabled do
    Stage.remote.run (session.enable .proxyHosts remote.id)
  return ⟨remote.id, bound, remote.health.online, certificate⟩

def synced (context : Context) (generation : Option Int64) (outcome : Converged)
    (status : ProxyHost.Status) : ProxyHost.Status :=
  { status with
    id := some outcome.id
    bound := outcome.bound
    online := outcome.online
    certificateId := outcome.certificate.id
    certificateBound := outcome.certificate.bound
    observedGeneration := generation
    conditions := Condition.markReady context.stamp "remote proxy host is in sync" status.conditions }

/-- Report that a pass has begun, once for each generation. -/
def begin (context : Context) (host : ProxyHost) : Pass Unit := do
  let status := host.statusOrEmpty
  let generation := host.metadata.generation
  if Condition.shouldMarkReconciling status.conditions status.observedGeneration generation then
    updateStatus context .proxyHost host.metadata.spokenKey <|
      Kind.proxyHost.mapConditions <|
        Condition.markReconciling context.stamp generation "converging remote proxy host"

def reconcile (context : Context) (host : ProxyHost) : Pass Action := do
  if host.metadata.isDeleting then dismiss host (Adopting.proxyHosts.cleanup context host)
  else
    hold host
    begin context host
    finish context host (converge context host) fun outcome => do
      updateStatus context .proxyHost host.metadata.spokenKey
        (synced context host.metadata.generation outcome)
      return .resync context

end Reconcile.ProxyHosts

end ProxyOperator
