import ProxyOperator.Proofs.Targets
import ProxyOperator.Reconcile.ProxyHost
/-!
What a forward comes down to for servers that accept blocks and for those that do not. For the latter it is
the first of the backends that the former are told of, so that what can be resolved for these can be resolved
for those.
-/
namespace ProxyOperator

open Attempt

namespace Target

/-- A target takes the place of one without a block: it leads there as well, or to a block of at least two
servers of which that one is the first. -/
structure Upgrades (owner : ObjectKey) (degraded upgraded : Target) : Prop where
  scheme : upgraded.scheme = degraded.scheme
  port : upgraded.port = degraded.port
  advancedConfig : upgraded.advancedConfig = degraded.advancedConfig
  host : (upgraded.upstream = none ∧ upgraded.host = degraded.host) ∨
    ∃ upstream second others, upgraded.upstream = some upstream ∧ upgraded.host = upstream.name ∧
      upstream = Upstream.synthesize owner (⟨degraded.host, degraded.port⟩ :: second :: others)

variable {world : Standstill} {owner : ObjectKey} {forward : Forward} {degraded : Target}

/-- Without blocks a target is the first of the backends. -/
theorem ofBackends_degraded {found : List Backend} {coordinates : Coordinates}
    (given : ofBackends owner false found = .ok coordinates) :
    ∃ first others, found = first :: others ∧ coordinates = ⟨first.host, first.port, none⟩ := by
  match found with
  | [] => cases given
  | [backend] =>
      cases given
      exact ⟨backend, [], rfl, rfl⟩
  | first :: second :: others =>
      cases given
      exact ⟨first, second :: others, rfl, rfl⟩

theorem unpooled_of_degraded (resolved : under world (resolve owner false forward) = .ok degraded) :
    degraded.upstream = none := by
  rcases under_resolve_eq_ok.mp resolved with ⟨found, _, coordinates, given, placed⟩
  rcases ofCoordinates_eq_ok.mp placed with ⟨_, _, rfl⟩
  rcases ofBackends_degraded given with ⟨first, others, _, rfl⟩
  rfl

/-- What is resolved for a server that does not accept blocks is resolved for one that does. -/
theorem exists_upgrade (resolved : under world (resolve owner false forward) = .ok degraded) :
    ∃ upgraded, under world (resolve owner true forward) = .ok upgraded ∧
      Upgrades owner degraded upgraded := by
  rcases under_resolve_eq_ok.mp resolved with ⟨found, leads, coordinates, given, placed⟩
  rcases ofCoordinates_eq_ok.mp placed with ⟨there, nonzero, rfl⟩
  rcases ofBackends_degraded given with ⟨first, others, rfl, rfl⟩
  cases others with
  | nil =>
      refine ⟨_, under_resolve_eq_ok.mpr ⟨_, leads, _, rfl, placed⟩, ?_⟩
      exact ⟨rfl, rfl, rfl, .inl ⟨rfl, rfl⟩⟩
  | cons second others =>
      have named := Upstream.nameFor_ne_empty owner (first :: second :: others)
      refine ⟨_, under_resolve_eq_ok.mpr
        ⟨_, leads, _, rfl, ofCoordinates_eq_ok.mpr ⟨named, nonzero, rfl⟩⟩, ?_⟩
      exact ⟨rfl, rfl, rfl, .inr ⟨_, second, others, rfl, rfl, rfl⟩⟩

end Target

namespace Reconcile.ProxyHosts

variable {world : Standstill} {host : ProxyHost} {targets : Targets}

/-- The same for all targets of a host. -/
theorem exists_upgrades (resolved : under world (resolveTargets host false) = .ok targets) :
    ∃ upgraded, under world (resolveTargets host true) = .ok upgraded := by
  rcases under_bind_eq_ok.mp resolved with ⟨main, first, further⟩
  rcases under_bind_eq_ok.mp further with ⟨locations, rest, _⟩
  rcases Target.exists_upgrade first with ⟨upgraded, ends, _⟩
  have each : ∀ location ∈ host.spec.locations, ∃ result, under world (do
      return (location, ← Target.resolve host.metadata.spokenKey true location.forward)) = .ok result := by
    intro location declared
    rcases exists_under_mapM.mp ⟨_, rest⟩ location declared with ⟨_, located⟩
    rcases under_bind_eq_ok.mp located with ⟨_, alone, _⟩
    rcases Target.exists_upgrade alone with ⟨_, located, _⟩
    exact ⟨_, under_bind_eq_ok.mpr ⟨_, located, rfl⟩⟩
  rcases exists_under_mapM.mpr each with ⟨_, all⟩
  exact ⟨_, under_bind_eq_ok.mpr ⟨_, ends, under_bind_eq_ok.mpr ⟨_, all, rfl⟩⟩⟩

end Reconcile.ProxyHosts

end ProxyOperator
