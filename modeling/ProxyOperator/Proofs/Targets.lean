import ProxyOperator.Proofs.Standstill
import ProxyOperator.Target
/-!
What forwards come down to. A forward is resolved by finding its backends, placing a target with them, and
checking where that target leads; only the second of these depends on what the server accepts.
-/
namespace ProxyOperator

open Attempt

theorem Upstream.nameFor_ne_empty (owner : ObjectKey) (backends : List Backend) :
    nameFor owner backends ≠ "" := by
  simp [nameFor, family]

namespace Target

variable {world : Standstill} {owner : ObjectKey} {unscoped : Bool} {forward : Forward}

/-! ## Backends of a forward -/

def serviceBackends (scheme : Scheme) («namespace» : String) (explicit : Option UInt16)
    (service : Service) : Pass (List Backend) := do
  let key : ObjectKey := ⟨«namespace», service.metadata.name.getD ""⟩
  match service.spec with
  | none => throw (Problem.noSpec key).failure
  | some spec =>
      let ports := spec.ports.getD []
      match spec.type with
      | some "ExternalName" =>
          let port ← orFail <|
            match explicit with
            | some port => .ok port
            | none => servicePort ports none scheme
          return [⟨spec.externalName.getD "", port⟩]
      | some "NodePort" =>
          let port ← orFail (nodePort key ports explicit scheme)
          let labels := spec.selector.getD .empty
          if labels.isEmpty then throw (Problem.noSelector key).failure
          let addresses ← nodeIps «namespace» labels
          if addresses.isEmpty then throw (Problem.noRunningPods key).failure
          return addresses.map fun address => ⟨address, port⟩
      | _ =>
          let host ← orFail (serviceHost key service spec)
          let port ← orFail (servicePort ports explicit scheme)
          return [⟨host, port⟩]

/-- The backends that a forward comes down to, declared or found in the cluster. -/
def backends («namespace» : String) (forward : Forward) : Pass (List Backend) :=
  match forward.hosts, forward.service with
  | some _, some _ => throw Problem.hostsAndService.failure
  | none, none => throw Problem.neitherHostsNorService.failure
  | some backends, none => pure backends
  | none, some reference => do
      let key := reference.resolve «namespace»
      let service ← findService key
      serviceBackends forward.scheme key.namespace reference.port service

theorem ofService_eq (owner : ObjectKey) (unscoped : Bool) (scheme : Scheme)
    («namespace» : String) (explicit : Option UInt16) (service : Service) :
    ofService owner unscoped scheme «namespace» explicit service =
      serviceBackends scheme «namespace» explicit service >>= fun found =>
        orFail (ofBackends owner unscoped found) := by
  unfold ofService serviceBackends
  cases service.spec with
  | none => rfl
  | some spec =>
      dsimp only
      generalize spec.type = type
      split
      · simp only [bind_assoc, pure_bind]
        rfl
      · simp only [bind_assoc]
        refine congrArg (_ >>= ·) (funext fun port => ?_)
        split
        · rfl
        · simp only [bind_assoc]
          refine congrArg (_ >>= ·) (funext fun addresses => ?_)
          split
          · rfl
          · rfl
      · simp only [bind_assoc, pure_bind]
        rfl

theorem coordinates_eq (owner : ObjectKey) (unscoped : Bool) (forward : Forward) :
    coordinates owner unscoped forward =
      backends owner.namespace forward >>= fun found =>
        orFail (ofBackends owner unscoped found) := by
  unfold coordinates backends
  cases forward.hosts <;> cases forward.service
  · rfl
  · simp only [bind_assoc, ofService_eq]
  · rfl
  · rfl

/-! ## Three stages -/

/-- The target at a place, provided that there is a host and a port. -/
def ofCoordinates (forward : Forward) (found : Coordinates) : Except Problem Target :=
  if found.host.isEmpty then .error .emptyHost
  else if found.port = 0 then .error .portZero
  else .ok ⟨forward.scheme, found.host, found.port, forward.advancedConfig.getD "", found.upstream⟩

theorem resolve_eq (owner : ObjectKey) (unscoped : Bool) (forward : Forward) :
    resolve owner unscoped forward =
      backends owner.namespace forward >>= fun found =>
        orFail (ofBackends owner unscoped found) >>= fun coordinates =>
          orFail (ofCoordinates forward coordinates) := by
  have checked (found : Coordinates) : orFail (ofCoordinates forward found) = (do
      if found.host.isEmpty then throw Problem.emptyHost.failure
      if found.port = 0 then throw Problem.portZero.failure
      return ⟨forward.scheme, found.host, found.port, forward.advancedConfig.getD "", found.upstream⟩) := by
    unfold ofCoordinates
    by_cases empty : found.host.isEmpty <;> by_cases zero : found.port = 0 <;>
      simp only [empty, zero] <;> rfl
  simp only [checked]
  unfold resolve
  rw [coordinates_eq, bind_assoc]

/-! ## Targets that are there -/

theorem ofCoordinates_eq_ok {found : Coordinates} {target : Target} :
    ofCoordinates forward found = .ok target ↔ found.host ≠ "" ∧ found.port ≠ 0 ∧
      target = ⟨forward.scheme, found.host, found.port, forward.advancedConfig.getD "", found.upstream⟩ := by
  rw [ne_eq, ← String.isEmpty_iff]
  unfold ofCoordinates
  split_ifs with empty zero
  · simp [empty]
  · simp [zero]
  · simp [empty, zero, eq_comm]

theorem under_orFail_eq_ok {α : Type} {result : Except Problem α} {value : α} :
    under world (orFail result) = .ok value ↔ result = .ok value := by
  cases result with
  | error problem =>
      constructor <;> intro impossible <;> cases impossible
  | ok found => simp [orFail]

theorem under_resolve_eq_ok {target : Target} :
    under world (resolve owner unscoped forward) = .ok target ↔
      ∃ found, under world (backends owner.namespace forward) = .ok found ∧
        ∃ coordinates, ofBackends owner unscoped found = .ok coordinates ∧
          ofCoordinates forward coordinates = .ok target := by
  simp only [resolve_eq, under_bind_eq_ok, under_orFail_eq_ok]

/-- A forward that is resolved comes down to backends, and the target is theirs. -/
theorem under_resolve {target : Target}
    (resolved : under world (resolve owner unscoped forward) = .ok target) :
    ∃ found coordinates, under world (backends owner.namespace forward) = .ok found ∧
      ofBackends owner unscoped found = .ok coordinates ∧
      target.host = coordinates.host ∧ target.upstream = coordinates.upstream := by
  rcases under_resolve_eq_ok.mp resolved with ⟨found, leads, coordinates, given, placed⟩
  rcases ofCoordinates_eq_ok.mp placed with ⟨_, _, rfl⟩
  exact ⟨found, coordinates, leads, given, rfl, rfl⟩

/-! ## Backends and blocks -/

/-- A block stands for several backends, and only where the server accepts blocks. -/
theorem ofBackends_block {found : List Backend} {coordinates : Coordinates} {upstream : Upstream}
    (given : ofBackends owner unscoped found = .ok coordinates)
    (block : coordinates.upstream = some upstream) :
    unscoped = true ∧ ∃ first second others, found = first :: second :: others ∧
      coordinates = ⟨Upstream.nameFor owner found, first.port, some (Upstream.synthesize owner found)⟩ := by
  match found with
  | [] => cases given
  | [backend] =>
      cases given
      cases block
  | first :: second :: others =>
      cases unscoped with
      | false =>
          cases given
          cases block
      | true =>
          cases given
          exact ⟨rfl, first, second, others, rfl, rfl⟩

theorem ofBackends_pool {found : List Backend} {coordinates : Coordinates} (several : 2 ≤ found.length)
    (given : ofBackends owner true found = .ok coordinates) :
    coordinates.host = Upstream.nameFor owner found ∧
      coordinates.upstream = some (Upstream.synthesize owner found) := by
  match found, several with
  | first :: second :: others, _ =>
      cases given
      exact ⟨rfl, rfl⟩

theorem ofBackends_upstream {found : List Backend} {coordinates : Coordinates} {upstream : Upstream}
    (given : ofBackends owner unscoped found = .ok coordinates)
    (block : coordinates.upstream = some upstream) : 2 ≤ found.length := by
  rcases ofBackends_block given block with ⟨_, _, _, _, rfl, _⟩
  exact Nat.le_add_left 2 _

/-- For a single backend it does not matter whether the server accepts blocks. -/
theorem ofBackends_alone {backends : List Backend} (alone : backends.length < 2)
    (owner : ObjectKey) (unscoped : Bool) :
    ofBackends owner unscoped backends = ofBackends owner false backends := by
  match backends, alone with
  | [], _ => rfl
  | [backend], _ => rfl

theorem under_resolve_alone {found : List Backend}
    (leads : under world (backends owner.namespace forward) = .ok found) (alone : found.length < 2)
    (unscoped : Bool) :
    under world (resolve owner unscoped forward) = under world (resolve owner false forward) := by
  rw [resolve_eq, resolve_eq, under_bind, under_bind, leads]
  simp only [Except.bind, ofBackends_alone alone owner unscoped]

/-! ## Backends that are there -/

theorem under_findService_eq_ok {key : ObjectKey} {service : Service} :
    under world (findService key) = .ok service ↔ world (.service key) = .ok (some service) := by
  have asked : under world (Pass.service key) = world (.service key) := rfl
  unfold findService
  rw [under_bind, asked]
  match world (.service key) with
  | .error failure => simp [Except.bind]
  | .ok none =>
      constructor <;> intro impossible <;> cases impossible
  | .ok (some found) => simp [Except.bind, Pass.demand]

theorem under_backends_eq_ok {«namespace» : String} {found : List Backend} :
    under world (backends «namespace» forward) = .ok found ↔
      (forward.hosts = some found ∧ forward.service = none) ∨
      ∃ reference service, forward.hosts = none ∧ forward.service = some reference ∧
        world (.service (reference.resolve «namespace»)) = .ok (some service) ∧
        under world (serviceBackends forward.scheme (reference.resolve «namespace»).namespace reference.port
          service) = .ok found := by
  unfold backends
  cases forward.hosts <;> cases forward.service
  · constructor
    · intro impossible
      cases impossible
    · simp
  · simp [under_bind_eq_ok, under_findService_eq_ok]
  · simp
  · constructor
    · intro impossible
      cases impossible
    · simp

end Target

end ProxyOperator
