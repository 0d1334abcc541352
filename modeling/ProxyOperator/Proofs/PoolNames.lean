import Mathlib.Data.List.Zip
import ProxyOperator.Proofs.Pools
import ProxyOperator.Proofs.Targets
import ProxyOperator.Reconcile.ProxyHost
/-!
Which block stands under the name of a pool once a pass has resolved its targets. The set is kept by
name, and the name tells pools apart as far as the text does that its digest is taken of.
-/
namespace ProxyOperator

open Attempt

namespace Reconcile.ProxyHosts

def forwards (host : ProxyHost) : List Forward :=
  host.spec.forward :: host.spec.locations.map (·.forward)

def Targets.destinations (targets : Targets) : List String :=
  targets.main.host :: targets.locations.map (·.host)

/-- A forward of a host comes down to several backends, and their traffic is sent to `name`. -/
def Pool (world : Standstill) (host : ProxyHost) (targets : Targets) (backends : List Backend)
    (name : String) : Prop :=
  2 ≤ backends.length ∧ ∃ forward, (forward, name) ∈ (forwards host).zip targets.destinations ∧
    under world (Target.backends host.metadata.spokenKey.namespace forward) = .ok backends

variable {world : Standstill} {host : ProxyHost} {targets : Targets} {backends others : List Backend}
  {name : String}

/-- What a pass resolves is the targets of the forwards one by one, and their blocks. -/
theorem under_resolveTargets {unscoped : Bool}
    (resolved : under world (resolveTargets host unscoped) = .ok targets) :
    ∃ found : List Target,
      List.Forall₂ (fun forward target =>
        under world (Target.resolve host.metadata.spokenKey unscoped forward) = .ok target)
        (forwards host) found ∧
      targets.destinations = found.map (·.host) ∧
      targets.upstreams = (found.map (·.upstream)).foldl UpstreamSet.insertAny .empty := by
  unfold resolveTargets at resolved
  rcases under_bind_eq_ok.mp resolved with ⟨main, first, further⟩
  rcases under_bind_eq_ok.mp further with ⟨locations, rest, given⟩
  rcases Except.ok.inj given with rfl
  refine ⟨main :: locations.map (·.2), .cons first ?_, ?_, ?_⟩
  · rw [List.forall₂_map_left_iff, List.forall₂_map_right_iff]
    refine (under_mapM_eq_ok.mp rest).imp fun location pair ends => ?_
    rcases under_bind_eq_ok.mp ends with ⟨target, ends, same⟩
    exact Except.ok.inj same ▸ ends
  · simp only [Targets.destinations, located, List.map_map, List.map_cons]
    rfl
  · simp only [List.map_cons, List.map_map, List.foldl_cons, List.foldl_map]
    rfl

private theorem exists_zip_of_mem {α β : Type} {related : α → β → Prop} {first : List α}
    {second : List β} {value : β} (pairs : List.Forall₂ related first second)
    (member : value ∈ second) : ∃ partner, (partner, value) ∈ first.zip second ∧
      related partner value := by
  induction pairs with
  | nil => cases member
  | cons pair rest induction =>
      rcases List.mem_cons.mp member with rfl | inside
      · exact ⟨_, .head _, pair⟩
      · rcases induction inside with ⟨partner, zipped, holds⟩
        exact ⟨partner, .tail _ zipped, holds⟩

section

variable (resolved : under world (resolveTargets host true) = .ok targets)

include resolved

/-- A pool is sent under the name of its own block, and there is a block of that name. -/
theorem Pool.named (pool : Pool world host targets backends name) :
    name = Upstream.nameFor host.metadata.spokenKey backends ∧
      ∃ block, (name, block) ∈ targets.upstreams.blocks.entries := by
  rcases pool with ⟨several, forward, sent, ends⟩
  rcases under_resolveTargets resolved with ⟨found, resolves, destinations, upstreams⟩
  rw [destinations, List.zip_map_right] at sent
  rcases List.mem_map.mp sent with ⟨⟨_, target⟩, zipped, same⟩
  rcases Prod.mk.inj same with ⟨rfl, rfl⟩
  rcases Target.under_resolve ((List.forall₂_iff_zip.mp resolves).2 zipped) with
    ⟨_, coordinates, again, given, sends, block⟩
  rcases Except.ok.inj (ends.symm.trans again) with rfl
  rcases Target.ofBackends_pool several given with ⟨named, synthesized⟩
  have made : target.upstream = some ⟨target.host, Upstream.blockText coordinates.host backends⟩ := by
    rw [block, synthesized, sends, named]
    rfl
  refine ⟨sends.trans named, ?_⟩
  rw [upstreams]
  exact UpstreamSet.name_mem_foldl_insertAny
    (.inr ⟨_, List.mem_map.mpr ⟨target, (List.of_mem_zip zipped).2, made⟩⟩)

theorem pool_of_mem {block : String} (member : (name, block) ∈ targets.upstreams.blocks.entries) :
    ∃ backends, Pool world host targets backends name ∧
      block = Upstream.blockText name backends := by
  rcases under_resolveTargets resolved with ⟨found, resolves, destinations, upstreams⟩
  rw [upstreams] at member
  have added := (UpstreamSet.mem_foldl_insertAny member).resolve_right fun impossible =>
    nomatch impossible
  rcases List.mem_map.mp added with ⟨target, inside, made⟩
  rcases exists_zip_of_mem resolves inside with ⟨forward, zipped, ends⟩
  rcases Target.under_resolve ends with ⟨backends, coordinates, again, given, sends, block⟩
  have several := Target.ofBackends_upstream given (block.symm.trans made)
  rcases Target.ofBackends_pool several given with ⟨named, synthesized⟩
  rcases Upstream.mk.inj (Option.some.inj ((synthesized.symm.trans block.symm).trans made)) with
    ⟨rfl, rfl⟩
  refine ⟨backends, ⟨several, forward, ?_, again⟩, rfl⟩
  rw [destinations, List.zip_map_right]
  exact List.mem_map.mpr ⟨(forward, target), zipped, congrArg (forward, ·) (sends.trans named)⟩

theorem exists_pool {forward : Forward} (declared : forward ∈ forwards host)
    (ends : under world (Target.backends host.metadata.spokenKey.namespace forward) = .ok backends)
    (several : 2 ≤ backends.length) : ∃ name, Pool world host targets backends name := by
  rcases under_resolveTargets resolved with ⟨found, resolves, destinations, -⟩
  rcases exists_zip_of_mem resolves.flip declared with ⟨target, zipped, -⟩
  refine ⟨target.host, several, forward, ?_, ends⟩
  rw [destinations, List.zip_map_right, ← List.zip_swap]
  exact List.mem_map.mpr ⟨(forward, target), List.mem_map.mpr ⟨_, zipped, rfl⟩, rfl⟩

/-- Where no target is a pool it does not matter whether the server accepts blocks. -/
theorem under_resolveTargets_unpooled (unpooled : targets.upstreams.isEmpty = true) :
    under world (resolveTargets host false) = .ok targets := by
  have same : ∀ forward ∈ forwards host,
      under world (Target.resolve host.metadata.spokenKey true forward) =
        under world (Target.resolve host.metadata.spokenKey false forward) := by
    intro forward declared
    obtain ⟨_, resolves, _⟩ := under_resolveTargets resolved
    obtain ⟨_, _, ends⟩ := exists_zip_of_mem resolves.flip declared
    obtain ⟨backends, _, leads, _⟩ := Target.under_resolve ends
    by_cases several : 2 ≤ backends.length
    · obtain ⟨_, pool⟩ := exists_pool resolved declared leads several
      obtain ⟨_, block, member⟩ := pool.named resolved
      exact absurd (List.isEmpty_iff.mp unpooled) (List.ne_nil_of_mem member)
    · exact Target.under_resolve_alone leads (Nat.lt_of_not_le several) true
  rw [← resolved]
  unfold resolveTargets
  rw [under_bind, under_bind, same _ (.head _)]
  refine congrArg _ (funext fun main => ?_)
  rw [under_bind, under_bind, under_mapM_congr fun location declared => ?_]
  rw [under_bind, under_bind, same _ (.tail _ (List.mem_map_of_mem declared))]

/-- There is exactly one block of the name of a pool, and it is the block of a pool of that name. -/
theorem Pool.one_block (pool : Pool world host targets backends name) :
    ∃ others, Pool world host targets others name ∧
      targets.upstreams.blocks.entries.filter (fun entry => entry.1 = name) =
        [(name, Upstream.blockText name others)] := by
  rcases (pool.named resolved).2 with ⟨block, member⟩
  rcases pool_of_mem resolved member with ⟨others, pool, rfl⟩
  exact ⟨others, pool, Dictionary.filter_key member⟩

end

/-- Under the name of each pool there is exactly one block, which is that of the pool, and different
pools have different names. -/
structure Intact (world : Standstill) (host : ProxyHost) (targets : Targets) : Prop where
  blocks : ∀ backends name, Pool world host targets backends name →
    targets.upstreams.blocks.entries.filter (fun entry => entry.1 = name) =
      [(name, Upstream.blockText name backends)]
  names : ∀ backends name others other, Pool world host targets backends name →
    Pool world host targets others other → backends ≠ others → name ≠ other

/-- Different texts that digests of pools are taken of have different digests. -/
def Apart (world : Standstill) (host : ProxyHost) (targets : Targets) : Prop :=
  ∀ backends name others other, Pool world host targets backends name →
    Pool world host targets others other →
    Digest.ofBytes (Utf8.encode (Upstream.digestText backends)) =
      Digest.ofBytes (Utf8.encode (Upstream.digestText others)) →
    Upstream.digestText backends = Upstream.digestText others

/-- Different pools have different texts that their digests are taken of. -/
def Unambiguous (world : Standstill) (host : ProxyHost) (targets : Targets) : Prop :=
  ∀ backends name others other, Pool world host targets backends name →
    Pool world host targets others other →
    Upstream.digestText backends = Upstream.digestText others → backends = others

theorem Intact.unambiguous (resolved : under world (resolveTargets host true) = .ok targets)
    (intact : Intact world host targets) : Unambiguous world host targets := by
  intro backends name others other first second same
  by_contra different
  apply intact.names backends name others other first second different
  rw [(first.named resolved).1, (second.named resolved).1, Upstream.nameFor_inj, same]

theorem Unambiguous.intact (resolved : under world (resolveTargets host true) = .ok targets)
    (apart : Apart world host targets) (unambiguous : Unambiguous world host targets) :
    Intact world host targets := by
  have told : ∀ backends others name, Pool world host targets backends name →
      Pool world host targets others name → backends = others := by
    intro backends others name first second
    have same := (first.named resolved).1.symm.trans (second.named resolved).1
    exact unambiguous _ _ _ _ first second
      (apart _ _ _ _ first second (Upstream.nameFor_inj.mp same))
  constructor
  · intro backends name pool
    rcases pool.one_block resolved with ⟨others, other, block⟩
    exact told backends others name pool other ▸ block
  · rintro backends name others other first second different rfl
    exact different (told backends others name first second)

/-- Hosts that hold no colon and begin with no digit keep the blocks intact. -/
theorem intact_of_plain (resolved : under world (resolveTargets host true) = .ok targets)
    (apart : Apart world host targets)
    (plain : ∀ backends name, Pool world host targets backends name →
      ∀ backend ∈ backends, backend.Plain) :
    Intact world host targets :=
  Unambiguous.intact resolved apart fun _ _ _ _ first second same =>
    Upstream.digestText_injective (plain _ _ first) (plain _ _ second) same

/-- Unless different texts have the same digest, the blocks of a host are intact just where no two of
its pools have addresses that read the same one after the other. -/
theorem intact_iff (resolved : under world (resolveTargets host true) = .ok targets)
    (apart : Apart world host targets) :
    Intact world host targets ↔ Unambiguous world host targets :=
  ⟨(·.unambiguous resolved), (·.intact resolved apart)⟩

def withPools (own below : List Backend) : ProxyHost where
  metadata := { (default : Metadata) with name := some "shop", «namespace» := some "web" }
  spec := { (default : ProxyHost.Spec) with
    domains := ["shop.example"]
    forward := { (default : Forward) with hosts := some own }
    locations := [⟨"/api", { (default : Forward) with hosts := some below }⟩] }
  status := none

theorem Pool.of_withPools {own below : List Backend}
    (pool : Pool world (withPools own below) targets backends name) :
    backends = own ∨ backends = below := by
  rcases pool with ⟨-, forward, sent, ends⟩
  rcases List.mem_cons.mp (List.of_mem_zip sent).1 with rfl | inside
  · exact .inl (Except.ok.inj ends).symm
  · rcases List.mem_singleton.mp inside with rfl
    exact .inr (Except.ok.inj ends).symm

/-- Two pools that share a backend have a block each. -/
theorem intact_shared_backend : ∃ targets,
    under .barren (resolveTargets (withPools [⟨"a", 80⟩, ⟨"b", 80⟩] [⟨"a", 80⟩, ⟨"c", 80⟩]) true) =
      .ok targets ∧
    Intact .barren (withPools [⟨"a", 80⟩, ⟨"b", 80⟩] [⟨"a", 80⟩, ⟨"c", 80⟩]) targets := by
  obtain ⟨targets, resolved⟩ := exists_under .barren (resolveTargets
    (withPools [⟨"a", 80⟩, ⟨"b", 80⟩] [⟨"a", 80⟩, ⟨"c", 80⟩]) true) (by decide +kernel)
  refine ⟨targets, resolved, (intact_iff resolved ?_).mpr ?_⟩
  · intro backends name others other first second
    rcases first.of_withPools with rfl | rfl <;> rcases second.of_withPools with rfl | rfl <;>
      decide +kernel
  · intro backends name others other first second
    rcases first.of_withPools with rfl | rfl <;> rcases second.of_withPools with rfl | rfl <;>
      decide +kernel

/-- Two pools whose addresses read `a:11b:2` one after the other are sent under one name, though no two
texts have the same digest. -/
theorem intact_fails_ambiguous : ∃ targets name,
    under .barren (resolveTargets (withPools [⟨"a", 1⟩, ⟨"1b", 2⟩] [⟨"a", 11⟩, ⟨"b", 2⟩]) true) =
      .ok targets ∧
    Apart .barren (withPools [⟨"a", 1⟩, ⟨"1b", 2⟩] [⟨"a", 11⟩, ⟨"b", 2⟩]) targets ∧
    Pool .barren (withPools [⟨"a", 1⟩, ⟨"1b", 2⟩] [⟨"a", 11⟩, ⟨"b", 2⟩]) targets
      [⟨"a", 1⟩, ⟨"1b", 2⟩] name ∧
    Pool .barren (withPools [⟨"a", 1⟩, ⟨"1b", 2⟩] [⟨"a", 11⟩, ⟨"b", 2⟩]) targets
      [⟨"a", 11⟩, ⟨"b", 2⟩] name ∧
    ¬ Intact .barren (withPools [⟨"a", 1⟩, ⟨"1b", 2⟩] [⟨"a", 11⟩, ⟨"b", 2⟩]) targets := by
  obtain ⟨targets, resolved⟩ := exists_under .barren (resolveTargets
    (withPools [⟨"a", 1⟩, ⟨"1b", 2⟩] [⟨"a", 11⟩, ⟨"b", 2⟩]) true) (by decide +kernel)
  rcases exists_pool resolved (.head _) rfl (by decide) with ⟨name, first⟩
  rcases exists_pool resolved (.tail _ (.head _)) rfl (by decide) with ⟨other, second⟩
  have same : name = other := by
    have texts : Upstream.digestText [⟨"a", 1⟩, ⟨"1b", 2⟩] =
        Upstream.digestText [⟨"a", 11⟩, ⟨"b", 2⟩] := by decide +kernel
    rw [(first.named resolved).1, (second.named resolved).1, Upstream.nameFor_inj, texts]
  have apart : Apart .barren (withPools [⟨"a", 1⟩, ⟨"1b", 2⟩] [⟨"a", 11⟩, ⟨"b", 2⟩]) targets := by
    intro backends name others other first second
    rcases first.of_withPools with rfl | rfl <;> rcases second.of_withPools with rfl | rfl <;>
      decide +kernel
  exact ⟨targets, name, resolved, apart, first, same ▸ second,
    fun intact => intact.names _ _ _ _ first second (by decide) same⟩

end Reconcile.ProxyHosts

end ProxyOperator
