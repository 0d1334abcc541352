import ProxyOperator.Proofs.HostRequests
import ProxyOperator.Proofs.Playing
import ProxyOperator.Proofs.Standstill
import ProxyOperator.Proofs.Surroundings
/-!
Hosts that are not looked at again when an object changes. Whatever a pass on a host reads of the objects
that it refers to is among what it is said to depend on, so for all other hosts the change makes no
difference.
-/
namespace ProxyOperator

open Attempt Reconcile

variable {context : Context} {host : ProxyHost} {operatorNamespace : String} {referent : Referent}
  {object : ObjectKey}

theorem Effect.Spares.of_consults {collection : Remote.Collection} {effect : Effect}
    (consults : effect.Consults collection) : effect.Spares referent object := by
  cases effect with
  | remote => trivial
  | _ => exact consults.elim

namespace ProxyHost

/-! ## What hosts depend on -/

/-- A host does not depend on an object. -/
def Avoids (host : ProxyHost) (operatorNamespace : String) (referent : Referent)
    (object : ObjectKey) : Prop :=
  host.dependsOn operatorNamespace referent object = false

theorem avoids_of_not_affected {hosts : List ProxyHost} (inside : host ∈ hosts)
    (unaffected : host ∉ affected hosts operatorNamespace referent object) :
    host.Avoids operatorNamespace referent object := by
  rw [affected, List.mem_filter, not_and] at unaffected
  exact Bool.eq_false_iff.mpr (unaffected inside)

namespace Avoids

/-- The Token that the host refers to is another one; without a reference the object is in neither of the
namespaces where the host looks for a Token. -/
theorem token (avoids : host.Avoids operatorNamespace .token object) :
    (∀ reference ∈ host.spec.token, reference.resolve host.metadata.spokenKey.namespace ≠ object) ∧
      (host.spec.token = none → host.metadata.spokenKey.namespace ≠ object.namespace ∧
        operatorNamespace ≠ object.namespace) := by
  unfold Avoids dependsOn mayUseToken at avoids
  dsimp only at avoids
  split at avoids
  · next reference refers =>
    constructor
    · intro other same
      rcases Option.some.inj (refers.symm.trans same) with rfl
      exact of_decide_eq_false avoids
    · intro none
      cases refers.symm.trans none
  · next discovers =>
    rw [Bool.or_eq_false_iff, decide_eq_false_iff_not, decide_eq_false_iff_not] at avoids
    constructor
    · intro other same
      cases discovers.symm.trans same
    · exact fun _ => ⟨Ne.symm avoids.1, Ne.symm avoids.2⟩

theorem of_leadsTo {reference : Option ResourceRef} (avoids : host.leadsTo reference object = false) :
    ∀ given ∈ reference, given.resolve host.metadata.spokenKey.namespace ≠ object := by
  rintro given rfl
  exact of_decide_eq_false avoids

theorem letsEncryptCertificate
    (avoids : host.Avoids operatorNamespace .letsEncryptCertificate object) :
    ∀ ssl ∈ host.spec.ssl, ∀ reference ∈ ssl.letsEncryptCertificate,
      reference.resolve host.metadata.spokenKey.namespace ≠ object := by
  intro ssl secured reference refers
  exact of_leadsTo avoids reference (Option.mem_bind_iff.mpr ⟨ssl, secured, refers⟩)

theorem customCertificate (avoids : host.Avoids operatorNamespace .customCertificate object) :
    ∀ ssl ∈ host.spec.ssl, ∀ reference ∈ ssl.customCertificate,
      reference.resolve host.metadata.spokenKey.namespace ≠ object := by
  intro ssl secured reference refers
  exact of_leadsTo avoids reference (Option.mem_bind_iff.mpr ⟨ssl, secured, refers⟩)

theorem accessList (avoids : host.Avoids operatorNamespace .accessList object) :
    ∀ given ∈ host.spec.accessList, ∀ name ∈ given.name,
      ⟨given.namespace.getD host.metadata.spokenKey.namespace, name⟩ ≠ object := by
  intro given guards name named same
  have guarded : host.isGuardedBy object = true := by
    rw [isGuardedBy, guards, Option.any_some, named, Option.any_some]
    exact decide_eq_true same
  cases guarded.symm.trans avoids

/-- The Services that its forward and those of its locations name are others. -/
theorem service (avoids : host.Avoids operatorNamespace .service object) :
    (∀ reference ∈ host.spec.forward.service,
        reference.resolve host.metadata.spokenKey.namespace ≠ object) ∧
      ∀ location ∈ host.spec.locations, ∀ reference ∈ location.forward.service,
        reference.resolve host.metadata.spokenKey.namespace ≠ object := by
  have ⟨main, located⟩ := Bool.or_eq_false_iff.mp avoids
  have apart {forward : Forward} (elsewhere : host.forwardsTo object forward = false) :
      ∀ reference ∈ forward.service,
        reference.resolve host.metadata.spokenKey.namespace ≠ object := by
    intro reference named
    rw [forwardsTo, named, Option.any_some] at elsewhere
    exact of_decide_eq_false elsewhere
  refine ⟨apart main, fun location inside => apart ?_⟩
  exact Bool.eq_false_iff.mpr (List.any_eq_false.mp located location inside)

end Avoids

/-! ## What passes read -/

theorem resolveTargets_spares (avoids : host.Avoids operatorNamespace referent object)
    (unscoped : Bool) :
    Asks (Effect.Spares referent object) (ProxyHosts.resolveTargets host unscoped) := by
  have permits (forward : Forward) (others : referent = .service → ∀ reference ∈ forward.service,
      reference.resolve host.metadata.spokenKey.namespace ≠ object) :
      Target.Permits (Effect.Spares referent object) host.metadata.spokenKey forward :=
    ⟨fun _ _ => trivial, fun _ => trivial, fun reference named own => others own reference named⟩
  apply ProxyHosts.resolveTargets_permitted
  · apply permits
    rintro rfl
    exact avoids.service.1
  · intro location inside
    apply permits
    rintro rfl
    exact avoids.service.2 location inside

/-- A pass on a host asks nothing about an object that the host does not depend on, and writes to no object
that hosts refer to. -/
theorem reconcile_spares
    (avoids : host.Avoids context.settings.operatorNamespace referent object) :
    Asks (Effect.Spares referent object) (ProxyHosts.reconcile context host) := by
  apply ProxyHosts.Permits.reconcile
  constructor
  case toUpkeep => exact ⟨nofun, fun _ _ => rfl, fun _ => trivial, fun _ => trivial⟩
  case holds => rfl
  case releases => rfl
  case others => exact nofun
  case remote => exact fun _ _ _ => trivial
  case deletes => exact fun _ _ _ _ _ => trivial
  case connects =>
    apply connect_permitted
    · rintro given refers ⟨⟩
      exact avoids.token.1 given refers
    · intro discovers
      constructor
      · rintro ⟨⟩
        exact ⟨_, rfl, (avoids.token.2 discovers).1⟩
      · rintro ⟨⟩
        exact ⟨_, rfl, (avoids.token.2 discovers).2⟩
    · exact fun _ => trivial
  case certifies =>
    intro session
    apply HostCertificate.resolve_permitted
    · exact fun _ => Effect.Spares.of_consults
    · rintro ssl secured reference refers ⟨⟩
      exact avoids.letsEncryptCertificate ssl secured reference refers
    · rintro ssl secured reference refers ⟨⟩
      exact avoids.customCertificate ssl secured reference refers
  case guards =>
    intro session
    apply HostAccess.resolve_permitted
    · exact fun _ => Effect.Spares.of_consults
    · rintro given guards name named ⟨⟩
      exact avoids.accessList given guards name named
  case targets => exact resolveTargets_spares avoids

/-! ## Passes on hosts that do not depend on an object -/

/-- Of a list of hosts those that are looked at again after a change of an object are a part, in the same
order; and a pass on any other host of the list comes to the same, by the same requests, whether or not the
object is there and whatever it is. -/
theorem unaffected_alike {ρ : Type} (nature : Nature ρ) (context : Context) (hosts : List ProxyHost)
    (referent : Referent) (object : ObjectKey) :
    (affected hosts context.settings.operatorNamespace referent object).Sublist hosts ∧
      ∀ host ∈ hosts, host ∉ affected hosts context.settings.operatorNamespace referent object →
        ∀ here there : Surroundings ρ, here.Alike referent object there →
          let one := here.visit nature (reconcile context .proxyHost host).run
          let other := there.visit nature (reconcile context .proxyHost host).run
          one.log = other.log ∧ one.outcome = other.outcome ∧
            one.surroundings.Alike referent object other.surroundings := by
  refine ⟨List.filter_sublist, fun host inside unaffected here there alike => ?_⟩
  have spares := reconcile_spares (avoids_of_not_affected inside unaffected)
  have ⟨outcome, log, after⟩ := alike.visit nature spares
  exact ⟨log, outcome, after⟩

end ProxyHost

namespace Sample

/-- Surroundings with nothing to refer to but Tokens. -/
def tokens (shelf : Shelf Token) : Surroundings Unit where
  shelf
    | .token => shelf
    | .letsEncryptCertificate | .customCertificate | .accessList | .service => []
  rest := ()

/-- The rest of the world: the remote server has one host and makes another, statuses are not kept, and
whatever else is asked fails. -/
def nature : Nature Unit where
  serves _ _ := true
  respond
    | _, .read .proxyHost _ => (.ok none, ())
    | _, .connect _ => (.ok (), ())
    | _, effect => ((elsewhere (remote none) effect).getD (Standstill.barren effect), ())

end Sample

namespace ProxyHost

/-- A Token of a namespace that is of no concern to a host comes and goes. -/
theorem unaffected_alike_elsewhere :
    let host := Sample.host "web" false [⟨"10.0.0.1", 80⟩]
    let object : ObjectKey := ⟨"other", "npm"⟩
    let here := Sample.tokens [(⟨"apps", "npm"⟩, .ok Sample.token)]
    let there := Sample.tokens [(object, .ok Sample.token), (⟨"apps", "npm"⟩, .ok Sample.token)]
    host ∉ affected [host] Sample.context.settings.operatorNamespace .token object ∧
      here.Alike .token object there ∧
      (here.visit Sample.nature (reconcile Sample.context .proxyHost host).run).outcome.isOk = true ∧
      (here.visit Sample.nature (reconcile Sample.context .proxyHost host).run).log =
        (there.visit Sample.nature (reconcile Sample.context .proxyHost host).run).log := by
  intro host object here there
  have unaffected :
      host ∉ affected [host] Sample.context.settings.operatorNamespace .token object := by
    have none : affected [host] Sample.context.settings.operatorNamespace .token object = [] := by
      decide
    rw [none]
    exact List.not_mem_nil
  have alike : here.Alike .token object there := by
    refine ⟨rfl, fun other different => ?_, rfl⟩
    cases other with
    | token => exact absurd rfl different
    | _ => rfl
  have ⟨_, passes⟩ := unaffected_alike Sample.nature Sample.context [host] .token object
  have succeeds : (here.visit Sample.nature
      (reconcile Sample.context .proxyHost host).run).outcome.isOk = true := by
    decide +kernel
  exact ⟨unaffected, alike, succeeds, (passes host (.head _) unaffected here there alike).1⟩

end ProxyHost

end ProxyOperator
