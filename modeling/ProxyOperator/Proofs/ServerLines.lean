import ProxyOperator.Proofs.NodePorts
/-!
Servers that traffic is sent to. Where a forward leads is checked once it is known, and that is its first
backend or the name of a block; the other backends of a block are as they were declared or found.
-/
namespace ProxyOperator

open Attempt

/-- A backend that traffic can be sent to. -/
def Backend.Routable (backend : Backend) : Prop := backend.host ≠ "" ∧ backend.port ≠ 0

instance (backend : Backend) : Decidable backend.Routable := inferInstanceAs (Decidable (_ ∧ _))

namespace Target

variable {world : Standstill} {owner : ObjectKey} {unscoped : Bool} {forward : Forward}

/-- A node runs a live pod of the Service that a forward refers to. -/
def Serves (world : Standstill) («namespace» : String) (forward : Forward) (name : String) : Prop :=
  ∃ reference service spec labels pods, forward.service = some reference ∧
    world (.service (reference.resolve «namespace»)) = .ok (some service) ∧ service.spec = some spec ∧
    spec.selector = some labels ∧
    world (.pods (reference.resolve «namespace»).namespace (selectorText labels)) = .ok pods ∧
    LiveOn pods name

/-- A Service has several backends only where it is reached through nodes. -/
theorem serviceBackends_several {scheme : Scheme} {«namespace» : String} {explicit : Option UInt16}
    {service : Service} {found : List Backend} (several : 2 ≤ found.length)
    (leads : under world (serviceBackends scheme «namespace» explicit service) = .ok found) :
    ∃ spec labels pods port, service.spec = some spec ∧ spec.selector = some labels ∧
      world (.pods «namespace» (selectorText labels)) = .ok pods ∧
      found = (world.nodeAddresses pods).map fun address => ⟨address, port⟩ := by
  unfold serviceBackends at leads
  cases specified : service.spec with
  | none =>
      rw [specified] at leads
      cases leads
  | some spec =>
      rw [specified] at leads
      dsimp only at leads
      split at leads
      · rcases under_bind_eq_ok.mp leads with ⟨port, _, given⟩
        cases given
        simp at several
      · rcases under_bind_eq_ok.mp leads with ⟨port, _, further⟩
        cases selects : spec.selector with
        | none =>
            rw [selects] at further
            cases further
        | some labels =>
            rw [selects] at further
            dsimp only [Option.getD_some] at further
            split at further
            · cases further
            · rcases under_bind_eq_ok.mp further with ⟨addresses, collected, given⟩
              rcases under_nodeIps_eq_ok collected with ⟨pods, listed, rfl⟩
              split at given
              · cases given
              · cases given
                exact ⟨spec, labels, pods, port, rfl, selects, listed, rfl⟩
      · rcases under_bind_eq_ok.mp leads with ⟨host, _, further⟩
        rcases under_bind_eq_ok.mp further with ⟨port, _, given⟩
        cases given
        simp at several

/-- All that a forward may send traffic to can take it: the backends it declares, and the nodes that run live
pods of its Service. -/
structure Sound (world : Standstill) («namespace» : String) (forward : Forward) : Prop where
  declared : ∀ declared, forward.hosts = some declared → ∀ backend ∈ declared, backend.Routable
  addressed : ∀ name address, Serves world «namespace» forward name → world.Addresses name address →
    address ≠ ""

section

variable {«namespace» : String} {found : List Backend}

theorem sound_iff_of_declared (declares : forward.hosts = some found) (unreferred : forward.service = none) :
    Sound world «namespace» forward ↔ ∀ backend ∈ found, backend.Routable := by
  constructor
  · intro sound
    exact sound.declared found declares
  · intro routable
    constructor
    · intro declared same
      cases declares.symm.trans same
      exact routable
    · intro name address serves
      rcases serves with ⟨_, _, _, _, _, refers, _⟩
      cases unreferred.symm.trans refers

/-- A forward that declares no backends and refers to a Service leads to the nodes that serve it. -/
theorem sound_iff_of_served {served : String → Prop} (undeclared : forward.hosts = none)
    (serves : ∀ name, Serves world «namespace» forward name ↔ served name) :
    Sound world «namespace» forward ↔
      ∀ name address, served name → world.Addresses name address → address ≠ "" := by
  constructor
  · intro sound name address serving
    exact sound.addressed name address ((serves name).mpr serving)
  · intro addressed
    constructor
    · intro declared same
      cases undeclared.symm.trans same
    · intro name address serving
      exact addressed name address ((serves name).mp serving)

theorem serves_iff {reference : ServiceRef} {service : Service} {spec : ServiceSpec}
    {labels : Dictionary String} {pods : List Pod} (refers : forward.service = some reference)
    (answer : world (.service (reference.resolve «namespace»)) = .ok (some service))
    (specified : service.spec = some spec) (selects : spec.selector = some labels)
    (listed : world (.pods (reference.resolve «namespace»).namespace (selectorText labels)) = .ok pods)
    (name : String) : Serves world «namespace» forward name ↔ LiveOn pods name := by
  constructor
  · intro serves
    rcases serves with ⟨_, _, _, _, _, refersToo, answerToo, specifiedToo, selectsToo, listedToo, live⟩
    cases refers.symm.trans refersToo
    cases answer.symm.trans answerToo
    cases specified.symm.trans specifiedToo
    cases selects.symm.trans selectsToo
    cases listed.symm.trans listedToo
    exact live
  · intro live
    exact ⟨reference, service, spec, labels, pods, refers, answer, specified, selects, listed, live⟩

theorem routable_iff_addressed {pods : List Pod} {port : UInt16} (nonzero : port ≠ 0) :
    (∀ backend ∈ (world.nodeAddresses pods).map (Backend.mk · port), backend.Routable) ↔
      ∀ name address, LiveOn pods name → world.Addresses name address → address ≠ "" := by
  have fans := world.fansOut_nodeAddresses pods
  constructor
  · intro routable name address live stands
    have member := (fans.reached address).mpr ⟨name, live, stands⟩
    exact (routable ⟨address, port⟩ (List.mem_map_of_mem member)).1
  · intro addressed backend member
    rcases List.mem_map.mp member with ⟨address, reached, rfl⟩
    rcases (fans.reached address).mp reached with ⟨name, live, stands⟩
    exact ⟨addressed name address live stands, nonzero⟩

theorem routable_iff_sound (several : 2 ≤ found.length)
    (leads : under world (backends «namespace» forward) = .ok found)
    (ported : ∃ backend ∈ found, backend.port ≠ 0) :
    (∀ backend ∈ found, backend.Routable) ↔ Sound world «namespace» forward := by
  rcases under_backends_eq_ok.mp leads with
    ⟨declares, unreferred⟩ | ⟨reference, service, undeclared, refers, answer, leads⟩
  · exact (sound_iff_of_declared declares unreferred).symm
  · rcases serviceBackends_several several leads with
      ⟨spec, labels, pods, port, specified, selects, listed, rfl⟩
    rcases ported with ⟨_, inside, nonzero⟩
    rcases List.mem_map.mp inside with ⟨_, _, rfl⟩
    rw [sound_iff_of_served undeclared (serves_iff refers answer specified selects listed)]
    exact routable_iff_addressed nonzero

end

/-- A target has a host and a port. If it is a block, then all servers of the block are valid just if all is
that its forward may send traffic to. -/
theorem servers_valid_iff {target : Target}
    (resolved : under world (resolve owner unscoped forward) = .ok target) :
    target.host ≠ "" ∧ 1 ≤ target.port.toNat ∧ target.port.toNat ≤ 65535 ∧
      ∀ upstream, target.upstream = some upstream →
        ∃ found, under world (backends owner.namespace forward) = .ok found ∧
          upstream = Upstream.synthesize owner found ∧
          ((∀ backend ∈ found, backend.Routable) ↔ Sound world owner.namespace forward) := by
  rcases under_resolve_eq_ok.mp resolved with ⟨found, leads, coordinates, given, placed⟩
  rcases ofCoordinates_eq_ok.mp placed with ⟨there, nonzero, rfl⟩
  have positive : 0 < coordinates.port.toNat :=
    Nat.pos_of_ne_zero fun zero => nonzero (UInt16.toNat_inj.mp zero)
  refine ⟨there, positive, Nat.le_of_lt_succ coordinates.port.toNat_lt, ?_⟩
  intro upstream block
  rcases ofBackends_block given block with ⟨_, first, second, others, rfl, rfl⟩
  cases block
  exact ⟨_, leads, rfl, routable_iff_sound (Nat.le_add_left 2 _) leads ⟨first, .head _, nonzero⟩⟩

def toPair (first second : Backend) : Forward := ⟨.http, some [first, second], none, none⟩

/-- Two backends with a host and a port each are the servers of a block, and traffic can be sent to both. -/
theorem servers_valid_pair : ∃ target upstream,
    under .barren (resolve ⟨"apps", "web"⟩ true (toPair ⟨"a", 80⟩ ⟨"b", 443⟩)) = .ok target ∧
      target.upstream = some upstream ∧
      upstream = Upstream.synthesize ⟨"apps", "web"⟩ [⟨"a", 80⟩, ⟨"b", 443⟩] ∧
      Sound .barren "apps" (toPair ⟨"a", 80⟩ ⟨"b", 443⟩) := by
  rcases exists_under .barren (resolve ⟨"apps", "web"⟩ true (toPair ⟨"a", 80⟩ ⟨"b", 443⟩))
    (by decide +kernel) with ⟨target, resolved⟩
  have block : target.upstream = some (Upstream.synthesize ⟨"apps", "web"⟩ [⟨"a", 80⟩, ⟨"b", 443⟩]) := by
    cases resolved
    rfl
  rcases servers_valid_iff resolved with ⟨_, _, _, blocks⟩
  rcases blocks _ block with ⟨found, leads, _, valid⟩
  cases leads
  exact ⟨target, _, resolved, block, rfl, valid.mp (by decide)⟩

/-- A block with a server that has no port is sent, though its forward is resolved. -/
theorem servers_fail_unported : ∃ target upstream,
    under .barren (resolve ⟨"apps", "web"⟩ true (toPair ⟨"10.0.0.1", 80⟩ ⟨"10.0.0.2", 0⟩)) = .ok target ∧
      target.upstream = some upstream ∧
      upstream.block = "upstream " ++ upstream.name ++
        " \x7b\n    least_conn;\n    server 10.0.0.1:80;\n    server 10.0.0.2:0;\n\x7d" := by
  rcases exists_under .barren (resolve ⟨"apps", "web"⟩ true (toPair ⟨"10.0.0.1", 80⟩ ⟨"10.0.0.2", 0⟩))
    (by decide +kernel) with ⟨target, resolved⟩
  cases resolved
  refine ⟨_, _, rfl, rfl, ?_⟩
  decide +kernel

end Target

end ProxyOperator
