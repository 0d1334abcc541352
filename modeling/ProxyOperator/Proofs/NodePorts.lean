import Mathlib.Data.List.Sort
import ProxyOperator.Proofs.Dictionaries
import ProxyOperator.Proofs.Targets
import ProxyOperator.Proofs.TextOrder
/-!
Services that are reached through nodes. Traffic goes to the nodes that run live pods, and what a forward
comes down to depends on which nodes these are, not on how their pods are listed.
-/
namespace ProxyOperator

open Attempt

/-! ## Live nodes -/

/-- A pod is on a node and not on its way out. -/
def Pod.RunsOn (pod : Pod) (name : String) : Prop :=
  pod.metadata.deletion = none ∧ ∃ spec, pod.spec = some spec ∧ spec.nodeName = some name

theorem Pod.liveNode?_eq_some {pod : Pod} {name : String} :
    pod.liveNode? = some name ↔ pod.RunsOn name := by
  unfold liveNode? RunsOn Metadata.isDeleting
  cases pod.metadata.deletion <;> simp [Option.bind_eq_some_iff]

/-- The names of the nodes that run live pods. -/
def LiveOn (pods : List Pod) (name : String) : Prop := ∃ pod ∈ pods, pod.RunsOn name

theorem Target.mem_liveNodes {pods : List Pod} {name : String} :
    name ∈ liveNodes pods ↔ LiveOn pods name := by
  simp [liveNodes, LiveOn, Pod.liveNode?_eq_some]

/-! ## Addresses -/

namespace Standstill

/-- There is a node of a name, and this is its address within the cluster. -/
def Addresses (world : Standstill) (name address : String) : Prop :=
  ∃ node, world (.node name) = .ok (some node) ∧ node.internalIp? = some address

/-- The address of a node, if the cluster tells one. -/
def address? (world : Standstill) (name : String) : Option String :=
  match world (.node name) with
  | .ok (some node) => node.internalIp?
  | _ => none

variable {world : Standstill} {pods : List Pod} {addresses : List String}

theorem address?_eq_some {name address : String} :
    world.address? name = some address ↔ world.Addresses name address := by
  unfold address? Addresses
  cases answer : world (.node name) with
  | error failure => simp
  | ok node? => cases node? <;> simp

/-- Where traffic goes: to the addresses of the nodes that run live pods, in the order of their bytes. -/
structure FansOut (world : Standstill) (pods : List Pod) (addresses : List String) : Prop where
  ordered : addresses.Pairwise fun first second => Utf8.encode first < Utf8.encode second
  reached : ∀ address, address ∈ addresses ↔ ∃ name, LiveOn pods name ∧ world.Addresses name address

/-- The addresses of the nodes that run live pods, as they are collected. -/
def nodeAddresses (world : Standstill) (pods : List Pod) : List String :=
  distinctTexts ((Target.liveNodes pods).filterMap world.address?)

theorem fansOut_nodeAddresses (world : Standstill) (pods : List Pod) :
    world.FansOut pods (world.nodeAddresses pods) where
  ordered := (distinctTexts_sorted _).imp Utf8.encode_lt_of_lt
  reached address := by simp [nodeAddresses, Target.mem_liveNodes, address?_eq_some]

theorem FansOut.unique {others : List String} (fans : world.FansOut pods addresses)
    (again : world.FansOut pods others) : addresses = others := by
  have ordered : addresses.Pairwise (· < ·) := fans.ordered.imp Utf8.encode_lt_iff.mp
  have orderedToo : others.Pairwise (· < ·) := again.ordered.imp Utf8.encode_lt_iff.mp
  apply ordered.eq_of_mem_iff orderedToo
  intro address
  rw [fans.reached, again.reached]

/-- The same nodes are reached at the same addresses, no matter which pods they run. -/
theorem FansOut.transfer {other : Standstill} {others : List Pod} (fans : world.FansOut pods addresses)
    (same : ∀ name, LiveOn others name ↔ LiveOn pods name)
    (nodes : ∀ name, LiveOn pods name → other (.node name) = world (.node name)) :
    other.FansOut others addresses where
  ordered := fans.ordered
  reached address := by
    rw [fans.reached]
    apply exists_congr
    intro name
    rw [same]
    apply and_congr_right
    intro live
    unfold Addresses
    rw [nodes name live]

end Standstill

/-! ## Forwards through nodes -/

/-- A forward to a Service that is reached through nodes, the labels of its pods and its port on the nodes. -/
structure NodePorted (forward : Forward) (service : Service) where
  reference : ServiceRef
  spec : ServiceSpec
  labels : Dictionary String
  picked : ServicePort
  number : Int32
  undeclared : forward.hosts = none
  refers : forward.service = some reference
  specified : service.spec = some spec
  type : spec.type = some "NodePort"
  selects : spec.selector = some labels
  selective : labels.isEmpty = false
  picks : Target.pickPort (spec.ports.getD []) reference.port forward.scheme = some picked
  numbered : picked.nodePort = some number
  isPort : 1 ≤ number.toInt ∧ number.toInt ≤ 65535

namespace NodePorted

variable {forward : Forward} {service : Service} {world other : Standstill} {owner : ObjectKey}
  {pods others : List Pod}

def port (ported : NodePorted forward service) : UInt16 := UInt16.ofNat ported.number.toInt.toNat

/-- The key that the Service is asked for with. -/
def key (ported : NodePorted forward service) (owner : ObjectKey) : ObjectKey :=
  ported.reference.resolve owner.namespace

/-- The cluster answers what is asked about a forward, and with these pods. -/
structure Seen (ported : NodePorted forward service) (world : Standstill) (owner : ObjectKey)
    (pods : List Pod) : Prop where
  found : world (.service (ported.key owner)) = .ok (some service)
  listed : world (.pods (ported.key owner).namespace (Target.selectorText ported.labels)) = .ok pods
  answered : ∀ name, LiveOn pods name → ∃ node?, world (.node name) = .ok node?
  addressed : ∀ name address, LiveOn pods name → world.Addresses name address → address ≠ ""

variable (ported : NodePorted forward service)

theorem port_toNat : (ported.port.toNat : Int) = ported.number.toInt := by
  have bounds := ported.isPort
  unfold port
  rw [UInt16.toNat_ofNat', Nat.mod_eq_of_lt (by omega)]
  omega

theorem port_ne_zero : ported.port ≠ 0 := by
  intro zero
  have value := ported.port_toNat
  have bounds := ported.isPort
  rw [zero] at value
  simp at value
  omega

def target (host : String) (upstream : Option Upstream) : Target :=
  ⟨forward.scheme, host, ported.port, forward.advancedConfig.getD "", upstream⟩

/-- What a forward comes down to if it leads to these addresses. -/
def outcome (owner : ObjectKey) (unscoped : Bool) : List String → Except Failure Target
  | [] =>
      .error (Target.Problem.noRunningPods
        ⟨(ported.key owner).namespace, service.metadata.name.getD ""⟩).failure
  | [address] => .ok (ported.target address none)
  | first :: second :: others =>
      if unscoped then
        let upstream := Upstream.synthesize owner
          ((first :: second :: others).map fun address => ⟨address, ported.port⟩)
        .ok (ported.target upstream.name (some upstream))
      else .ok (ported.target first none)

end NodePorted

namespace Target

variable {world : Standstill} {forward : Forward} {service : Service} {owner : ObjectKey} {pods : List Pod}

theorem under_nodeIp {name : String} (answered : ∃ node?, world (.node name) = .ok node?) :
    under world (nodeIp name) = .ok (world.address? name) := by
  rcases answered with ⟨node?, answer⟩
  have asked : under world (Pass.node name) = .ok node? := answer
  unfold nodeIp Standstill.address?
  rw [under_bind, asked, answer]
  cases node? <;> rfl

theorem under_nodeIps {«namespace» : String} {labels : Dictionary String}
    (listed : world (.pods «namespace» (selectorText labels)) = .ok pods)
    (answered : ∀ name, LiveOn pods name → ∃ node?, world (.node name) = .ok node?) :
    under world (nodeIps «namespace» labels) = .ok (world.nodeAddresses pods) := by
  have listing : under world (Pass.pods «namespace» (selectorText labels)) = .ok pods := listed
  have looked : under world ((liveNodes pods).mapM nodeIp) = .ok ((liveNodes pods).map world.address?) := by
    rw [under_mapM_eq_ok, List.forall₂_map_right_iff, List.forall₂_same]
    intro name live
    exact under_nodeIp (answered name (mem_liveNodes.mp live))
  unfold nodeIps
  rw [under_bind_eq_ok]
  refine ⟨pods, listing, under_bind_eq_ok.mpr ⟨_, looked, ?_⟩⟩
  simp [Standstill.nodeAddresses, List.filterMap_map]

/-- Addresses that are found are those of the nodes that run live pods. -/
theorem under_nodeIps_eq_ok {«namespace» : String} {labels : Dictionary String} {addresses : List String}
    (found : under world (nodeIps «namespace» labels) = .ok addresses) :
    ∃ pods, world (.pods «namespace» (selectorText labels)) = .ok pods ∧
      addresses = world.nodeAddresses pods := by
  rcases under_bind_eq_ok.mp found with ⟨pods, listed, further⟩
  rcases under_bind_eq_ok.mp further with ⟨collected, looked, given⟩
  have answered : ∀ name, LiveOn pods name → ∃ node?, world (.node name) = .ok node? := by
    intro name live
    rcases exists_under_mapM.mp ⟨_, looked⟩ name (mem_liveNodes.mpr live) with ⟨address?, ends⟩
    rcases under_bind_eq_ok.mp ends with ⟨node?, answer, _⟩
    exact ⟨node?, answer⟩
  have collects := under_nodeIps listed answered
  rw [found] at collects
  exact ⟨pods, listed, Except.ok.inj collects⟩

end Target

namespace NodePorted

variable {forward : Forward} {service : Service} {world other : Standstill} {owner : ObjectKey}
  {pods others : List Pod} (ported : NodePorted forward service)

theorem portNumber_eq : Target.portNumber "node port" ported.number = .ok ported.port := by
  have bounds := ported.isPort
  unfold Target.portNumber
  rw [if_pos (by omega)]
  rfl

theorem serviceBackends_eq («namespace» : String) :
    Target.serviceBackends forward.scheme «namespace» ported.reference.port service = (do
      let addresses ← Target.nodeIps «namespace» ported.labels
      if addresses.isEmpty then
        throw (Target.Problem.noRunningPods ⟨«namespace», service.metadata.name.getD ""⟩).failure
      return addresses.map fun address => ⟨address, ported.port⟩) := by
  unfold Target.serviceBackends
  simp only [ported.specified, ported.type]
  unfold Target.nodePort
  simp only [ported.picks, ported.numbered, ported.portNumber_eq, ported.selects, Option.getD_some,
    ported.selective]
  rfl

variable {ported}

theorem Seen.under_backends (seen : ported.Seen world owner pods) :
    under world (Target.backends owner.namespace forward) =
      match world.nodeAddresses pods with
      | [] => .error (Target.Problem.noRunningPods
          ⟨(ported.key owner).namespace, service.metadata.name.getD ""⟩).failure
      | addresses => .ok (addresses.map fun address => ⟨address, ported.port⟩) := by
  have found : under world (Target.findService (ported.key owner)) = .ok service :=
    Target.under_findService_eq_ok.mpr seen.found
  unfold Target.backends
  simp only [ported.undeclared, ported.refers]
  rw [under_bind, show ported.reference.resolve owner.namespace = ported.key owner from rfl, found]
  simp only [Except.bind, ported.serviceBackends_eq]
  rw [under_bind, Target.under_nodeIps seen.listed seen.answered]
  cases world.nodeAddresses pods <;> rfl

theorem Seen.under_resolve (seen : ported.Seen world owner pods) (unscoped : Bool) :
    under world (Target.resolve owner unscoped forward) =
      ported.outcome owner unscoped (world.nodeAddresses pods) := by
  have fans := world.fansOut_nodeAddresses pods
  have leads := seen.under_backends
  have named : ∀ address ∈ world.nodeAddresses pods, address ≠ "" := by
    intro address member
    rcases (fans.reached address).mp member with ⟨name, live, stands⟩
    exact seen.addressed name address live stands
  have placed (host : String) (upstream : Option Upstream) (there : host ≠ "") :
      Target.ofCoordinates forward ⟨host, ported.port, upstream⟩ = .ok (ported.target host upstream) :=
    Target.ofCoordinates_eq_ok.mpr ⟨there, ported.port_ne_zero, rfl⟩
  generalize world.nodeAddresses pods = addresses at leads named ⊢
  match addresses with
  | [] =>
      rw [Target.resolve_eq, under_bind, leads]
      rfl
  | [address] =>
      have made := placed address none (named address (.head _))
      exact Target.under_resolve_eq_ok.mpr ⟨_, leads, _, rfl, made⟩
  | first :: second :: others =>
      cases unscoped with
      | false =>
          have made := placed first none (named first (.head _))
          exact Target.under_resolve_eq_ok.mpr ⟨_, leads, _, rfl, made⟩
      | true =>
          have there := Upstream.nameFor_ne_empty owner
            ((first :: second :: others).map fun address => ⟨address, ported.port⟩)
          exact Target.under_resolve_eq_ok.mpr ⟨_, leads, _, rfl, placed _ _ there⟩

/-- A forward through nodes leads to just the addresses of the nodes that run live pods, in the order of
their bytes: to the only one, to a block of all of them where the server accepts blocks, and to the first one
where it does not. What it comes down to is the same as long as the live pods are on the same nodes. -/
theorem fans_out_exactly (ported : NodePorted forward service) (seen : ported.Seen world owner pods) :
    (∃ addresses, world.FansOut pods addresses ∧
      (∀ others, world.FansOut pods others → others = addresses) ∧
      ∀ unscoped, under world (Target.resolve owner unscoped forward) =
        ported.outcome owner unscoped addresses) ∧
    ∀ other others, ported.Seen other owner others →
      (∀ name, LiveOn others name ↔ LiveOn pods name) →
      (∀ name, LiveOn pods name → other (.node name) = world (.node name)) →
      ∀ unscoped, under other (Target.resolve owner unscoped forward) =
        under world (Target.resolve owner unscoped forward) := by
  have fans := world.fansOut_nodeAddresses pods
  constructor
  · exact ⟨_, fans, fun others again => again.unique fans, seen.under_resolve⟩
  · intro other others seenToo live nodes unscoped
    have same := (fans.transfer live nodes).unique (other.fansOut_nodeAddresses others)
    rw [seen.under_resolve, seenToo.under_resolve, same]

def portal : Service where
  metadata := { (default : Metadata) with name := some "web" }
  spec := some { (default : ServiceSpec) with
    ports := some [{ (default : ServicePort) with port := 80, nodePort := some 30080 }]
    selector := some (.ofList [("app", "web")])
    type := some "NodePort" }
  status := none

def podOn (name : String) : Pod := ⟨default, some ⟨some name⟩⟩

/-- A cluster of these pods and of three nodes, two of them at one address. -/
def crowd (pods : List Pod) : Standstill
  | .service _ => .ok (some portal)
  | .pods _ _ => .ok pods
  | .node name =>
      let address := if name = "third" then "10.0.0.2" else "10.0.0.1"
      .ok (some ⟨default, some ⟨some [⟨address, "InternalIP"⟩]⟩⟩)
  | effect => Standstill.barren effect

theorem crowd_addresses {pods : List Pod} {name address : String}
    (stands : (crowd pods).Addresses name address) : address ≠ "" := by
  rcases stands with ⟨node, answer, told⟩
  cases answer
  cases told
  split <;> decide

def ofPortal : NodePorted (Forward.toService "web") portal where
  reference := ⟨"web", none, none⟩
  spec := _
  labels := _
  picked := _
  number := _
  undeclared := rfl
  refers := rfl
  specified := rfl
  type := rfl
  selects := rfl
  selective := rfl
  picks := rfl
  numbered := rfl
  isPort := by decide

theorem seen_crowd (owner : ObjectKey) (pods : List Pod) : ofPortal.Seen (crowd pods) owner pods where
  found := rfl
  listed := rfl
  answered _ _ := ⟨_, rfl⟩
  addressed _ _ _ := crowd_addresses

/-- Four live pods on three nodes. -/
def spread : List Pod := [podOn "third", podOn "second", podOn "first", podOn "second"]

/-- Three other live pods on these nodes, one that leaves another node, and one that has no place yet. -/
def respread : List Pod :=
  [podOn "first", ⟨default, some ⟨none⟩⟩, podOn "second", podOn "third",
    { podOn "fourth" with metadata := { (default : Metadata) with deletion := some default } }]

/-- The forward of a host to the Service. -/
def toPortal (unscoped : Bool) : Pass Target :=
  Target.resolve ⟨"apps", "shop"⟩ unscoped (Forward.toService "web")

/-- Pods on three nodes lead to two addresses, and so do other pods on these nodes. -/
theorem fans_out_exactly_crowd :
    (∀ unscoped, under (crowd spread) (toPortal unscoped) =
      ofPortal.outcome ⟨"apps", "shop"⟩ unscoped ["10.0.0.1", "10.0.0.2"]) ∧
    ∀ unscoped, under (crowd respread) (toPortal unscoped) = under (crowd spread) (toPortal unscoped) := by
  have exactly := fans_out_exactly ofPortal (seen_crowd ⟨"apps", "shop"⟩ spread)
  constructor
  · rcases exactly.1 with ⟨addresses, _, unique, ends⟩
    have same := unique _ (Standstill.fansOut_nodeAddresses _ _)
    have computed : (crowd spread).nodeAddresses spread = ["10.0.0.1", "10.0.0.2"] := by
      decide +kernel
    rw [← same, computed] at ends
    exact ends
  · apply exactly.2 _ _ (seen_crowd _ _)
    · intro name
      have nodes : Target.liveNodes respread = Target.liveNodes spread := by
        decide +kernel
      rw [← Target.mem_liveNodes, ← Target.mem_liveNodes, nodes]
    · intro name live
      rfl

end NodePorted

end ProxyOperator
