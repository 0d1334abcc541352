import ProxyOperator.Effect
import ProxyOperator.Upstream
/-!
Forward targets: the scheme, host and port that a declared forward comes down to in the cluster as it is
now. Several backends become an upstream block where the remote server accepts one, and the first of
them otherwise.
-/
namespace ProxyOperator

structure Target where
  scheme : Scheme
  /-- A host, an address, or the name of an upstream block. -/
  host : String
  port : UInt16
  advancedConfig : String
  upstream : Option Upstream
  deriving DecidableEq, Repr, Inhabited

namespace Target

inductive Problem where
  | hostsAndService
  | neitherHostsNorService
  | noHosts
  | emptyHost
  | portZero
  | noSpec (service : ObjectKey)
  | noMatchingPort (service : ObjectKey)
  | noNodePort (service : ObjectKey) (port : Int32)
  /-- A number that is no port; `what` says where it stands. -/
  | outOfRange (what : String) (value : Int32)
  | noSelector (service : ObjectKey)
  | noRunningPods (service : ObjectKey)
  | headless (service : ObjectKey)
  deriving DecidableEq

def Problem.message : Problem → String
  | .hostsAndService => "forward.hosts and forward.service are mutually exclusive"
  | .neitherHostsNorService => "forward requires either hosts or service"
  | .noHosts => "forward.hosts is empty"
  | .emptyHost => "resolved forward host is empty"
  | .portZero => "resolved forward port is zero"
  | .noSpec service => "service " ++ service.text ++ " has no spec"
  | .noMatchingPort service => "service " ++ service.text ++ " has no matching port"
  | .noNodePort service port =>
      "service " ++ service.text ++ " port " ++ toString port.toInt ++ " has no node port assigned"
  | .outOfRange what value => what ++ " " ++ toString value.toInt ++ " is out of range"
  | .noSelector service => "service " ++ service.text ++ " has no pod selector"
  | .noRunningPods service => "service " ++ service.text ++ " has no running pods on any node"
  | .headless service => "service " ++ service.text ++ " is headless and has no cluster IP"

def Problem.failure (problem : Problem) : Failure := .invalid problem.message

structure Coordinates where
  host : String
  port : UInt16
  upstream : Option Upstream
  deriving DecidableEq, Repr, Inhabited

def ofBackends (owner : ObjectKey) (unscoped : Bool) :
    List Backend → Except Problem Coordinates
  | [] => .error .noHosts
  | [backend] => .ok ⟨backend.host, backend.port, none⟩
  | first :: others =>
      if unscoped then
        let upstream := Upstream.synthesize owner (first :: others)
        .ok ⟨upstream.name, first.port, some upstream⟩
      else .ok ⟨first.host, first.port, none⟩

/-! ## Ports of a Service -/

def occursIn (part : List Char) : List Char → Bool
  | [] => part.isEmpty
  | character :: rest => part.isPrefixOf (character :: rest) || occursIn part rest

def speaksOf (word : String) (port : ServicePort) : Bool :=
  port.name.any fun name => occursIn word.toList name.toLower.toList

/-- The port to forward to: the one of the number asked for; otherwise the first whose name speaks of
the scheme, with one that speaks of https better than none, and the first of all if none does. -/
def pickPort (ports : List ServicePort) (explicit : Option UInt16) (scheme : Scheme) :
    Option ServicePort :=
  match explicit with
  | some number => ports.find? fun port => port.port.toInt = number.toNat
  | none =>
      let plain :=
        match scheme with
        | .http => ports.find? fun port => speaksOf "http" port && !speaksOf "https" port
        | .https => none
      plain <|> ports.find? (speaksOf "https") <|> ports.head?

/-- A number of a Service as a port. -/
def portNumber (what : String) (value : Int32) : Except Problem UInt16 :=
  if 0 ≤ value.toInt ∧ value.toInt < 65536 then .ok (UInt16.ofNat value.toInt.toNat)
  else .error (.outOfRange what value)

/-- The port of a Service that is reached by a host of its own: the one that is picked, the one asked
for if the Service does not declare it, and zero if there is none. -/
def servicePort (ports : List ServicePort) (explicit : Option UInt16) (scheme : Scheme) :
    Except Problem UInt16 :=
  match pickPort ports explicit scheme with
  | some port => portNumber "service port" port.port
  | none => .ok (explicit.getD 0)

/-- The port on the nodes that leads to a Service. -/
def nodePort (service : ObjectKey) (ports : List ServicePort) (explicit : Option UInt16)
    (scheme : Scheme) : Except Problem UInt16 :=
  match pickPort ports explicit scheme with
  | none => .error (.noMatchingPort service)
  | some port =>
      match port.nodePort with
      | none => .error (.noNodePort service port.port)
      | some number => portNumber "node port" number

/-! ## Nodes of a Service -/

def selectorText (labels : Dictionary String) : String :=
  ",".intercalate (labels.entries.map fun label => label.1 ++ "=" ++ label.2)

/-- The nodes that run live pods, in order. -/
def liveNodes (pods : List Pod) : List String := distinctTexts (pods.filterMap (·.liveNode?))

/-- The address of a node within the cluster, if there is such a node and it has one. -/
def nodeIp (name : String) : Pass (Option String) := do
  return (← Pass.node name).bind (·.internalIp?)

/-- The addresses of the nodes that run live pods of a Service, in order. -/
def nodeIps («namespace» : String) (labels : Dictionary String) : Pass (List String) := do
  let pods ← Pass.pods «namespace» (selectorText labels)
  let addresses ← (liveNodes pods).mapM nodeIp
  return distinctTexts (addresses.filterMap id)

/-! ## Services -/

def orFail {α : Type} : Except Problem α → Pass α
  | .ok value => pure value
  | .error problem => throw problem.failure

/-- The host of a Service that is neither an alias nor reached through nodes: where its load balancer
takes traffic in, or else its own address. -/
def serviceHost (key : ObjectKey) (service : Service) (spec : ServiceSpec) :
    Except Problem String :=
  match service.ingressIps.head? with
  | some address => .ok address
  | none =>
      if spec.clusterIp = some "None" then .error (.headless key) else .ok (spec.clusterIp.getD "")

def ofService (owner : ObjectKey) (unscoped : Bool) (scheme : Scheme) («namespace» : String)
    (explicit : Option UInt16) (service : Service) : Pass Coordinates := do
  let key : ObjectKey := ⟨«namespace», service.metadata.name.getD ""⟩
  match service.spec with
  | none => throw (Problem.noSpec key).failure
  | some spec =>
      let ports := spec.ports.getD []
      match spec.type with
      | some "ExternalName" =>
          let port ← orFail <|
            match explicit with
            | some port => .ok port
            | none => servicePort ports none scheme
          return ⟨spec.externalName.getD "", port, none⟩
      | some "NodePort" =>
          let port ← orFail (nodePort key ports explicit scheme)
          let labels := spec.selector.getD .empty
          if labels.isEmpty then throw (Problem.noSelector key).failure
          let addresses ← nodeIps «namespace» labels
          if addresses.isEmpty then throw (Problem.noRunningPods key).failure
          orFail (ofBackends owner unscoped (addresses.map fun address => ⟨address, port⟩))
      | _ =>
          let host ← orFail (serviceHost key service spec)
          let port ← orFail (servicePort ports explicit scheme)
          return ⟨host, port, none⟩

def findService (key : ObjectKey) : Pass Service := do
  Pass.demand (.reference ("service " ++ key.text ++ " not found")) (← Pass.service key)

def coordinates (owner : ObjectKey) (unscoped : Bool) (forward : Forward) : Pass Coordinates :=
  match forward.hosts, forward.service with
  | some _, some _ => throw Problem.hostsAndService.failure
  | none, none => throw Problem.neitherHostsNorService.failure
  | some backends, none => orFail (ofBackends owner unscoped backends)
  | none, some reference => do
      let key := reference.resolve owner.namespace
      let service ← findService key
      ofService owner unscoped forward.scheme key.namespace reference.port service

/-- Resolve the forward of an owner. `unscoped` says whether the remote server accepts upstream
blocks. -/
def resolve (owner : ObjectKey) (unscoped : Bool) (forward : Forward) : Pass Target := do
  let found ← coordinates owner unscoped forward
  if found.host.isEmpty then throw Problem.emptyHost.failure
  if found.port = 0 then throw Problem.portZero.failure
  return ⟨forward.scheme, found.host, found.port, forward.advancedConfig.getD "", found.upstream⟩

end Target

end ProxyOperator
