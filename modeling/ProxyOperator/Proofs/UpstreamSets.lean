import Mathlib.Data.List.Dedup
import Mathlib.Data.List.Induction
import Mathlib.Data.List.Sort
import ProxyOperator.Proofs.Dictionaries
import ProxyOperator.Proofs.TextOrder
import ProxyOperator.Upstream
/-!
Sets of upstream blocks. Of the blocks that were added under one name the last one is kept, and what is kept is
sent in the order of the names. So the text that is sent does not depend on when a block was added, nor on how
often, unless one name was given to different blocks.
-/
namespace ProxyOperator

/-- Dictionaries with the same entries are the same, as their order is that of the keys. -/
theorem Dictionary.eq_of_mem_iff {α : Type} {first second : Dictionary α}
    (same : ∀ entry, entry ∈ first.entries ↔ entry ∈ second.entries) : first = second := by
  have irreflexive : Std.Irrefl fun one other : String × α => one.1 < other.1 :=
    ⟨fun entry => String.lt_irrefl entry.1⟩
  have asymmetric : Std.Asymm fun one other : String × α => one.1 < other.1 :=
    ⟨fun _ _ => String.lt_asymm⟩
  exact Dictionary.ext (first.sorted.eq_of_mem_iff second.sorted fun entry => same entry)

namespace Upstream

variable {upstreams : List Upstream} {upstream last : Upstream}

/-! ## The last block of a name -/

/-- A block that no other one of its name comes after. -/
def LastIn (upstreams : List Upstream) (upstream : Upstream) : Prop :=
  ∃ before after, upstreams = before ++ upstream :: after ∧
    ∀ later ∈ after, later.name ≠ upstream.name

theorem LastIn.mem (stays : LastIn upstreams upstream) : upstream ∈ upstreams := by
  rcases stays with ⟨before, after, rfl, _⟩
  exact List.mem_append_right _ List.mem_cons_self

theorem lastIn_concat : LastIn (upstreams ++ [last]) upstream ↔
    upstream = last ∨ upstream.name ≠ last.name ∧ LastIn upstreams upstream := by
  constructor
  · rintro ⟨before, after, split, others⟩
    rcases List.eq_nil_or_concat' after with rfl | ⟨after, other, rfl⟩
    · exact .inl (List.singleton_inj.mp (List.append_inj' split rfl).2).symm
    · have shifted : upstreams ++ [last] = (before ++ upstream :: after) ++ [other] := by
        simpa using split
      obtain ⟨rfl, same⟩ := List.append_inj' shifted rfl
      obtain rfl := List.singleton_inj.mp same
      refine .inr ⟨(others last (by simp)).symm, before, after, rfl, fun later inside => ?_⟩
      exact others later (List.mem_append_left _ inside)
  · rintro (rfl | ⟨different, before, after, rfl, others⟩)
    · exact ⟨upstreams, [], rfl, fun _ impossible => nomatch impossible⟩
    · refine ⟨before, after ++ [last], by simp, fun later inside => ?_⟩
      rcases List.mem_append.mp inside with earlier | newest
      · exact others later earlier
      · exact List.mem_singleton.mp newest ▸ different.symm

/-- Every name that was used has a last block. -/
theorem exists_lastIn (inside : upstream ∈ upstreams) :
    ∃ kept, LastIn upstreams kept ∧ kept.name = upstream.name := by
  induction upstreams using List.reverseRecOn with
  | nil => cases inside
  | append_singleton earlier last induction =>
      by_cases same : last.name = upstream.name
      · exact ⟨last, lastIn_concat.mpr (.inl rfl), same⟩
      · have before : upstream ∈ earlier := by
          rcases List.mem_append.mp inside with before | newest
          · exact before
          · exact (same (List.mem_singleton.mp newest ▸ rfl)).elim
        have ⟨kept, stays, named⟩ := induction before
        exact ⟨kept, lastIn_concat.mpr (.inr ⟨fun equal => same (equal.symm.trans named), stays⟩), named⟩

/-- Equal names come with equal blocks. -/
def Agree (upstreams : List Upstream) : Prop :=
  ∀ one ∈ upstreams, ∀ other ∈ upstreams, one.name = other.name → one.block = other.block

/-- If equal names come with equal blocks, nothing is lost. -/
theorem Agree.lastIn_iff (agree : Agree upstreams) : LastIn upstreams upstream ↔ upstream ∈ upstreams := by
  refine ⟨LastIn.mem, fun inside => ?_⟩
  have ⟨kept, stays, named⟩ := exists_lastIn inside
  have same : kept = upstream := by
    have blocks := agree kept stays.mem upstream inside named
    cases kept
    cases upstream
    exact congr (congrArg Upstream.mk named) blocks
  exact same ▸ stays

end Upstream

namespace UpstreamSet

open Upstream

variable {upstreams others : List Upstream} {upstream : Upstream}

/-! ## What a set holds -/

/-- The set to which blocks were added one after the other. -/
def ofList (upstreams : List Upstream) : UpstreamSet := upstreams.foldl insert empty

theorem ofList_concat : ofList (upstreams ++ [upstream]) = (ofList upstreams).insert upstream :=
  List.foldl_append

theorem mem_ofList {name block : String} : (name, block) ∈ (ofList upstreams).blocks.entries ↔
    LastIn upstreams ⟨name, block⟩ := by
  induction upstreams using List.reverseRecOn with
  | nil =>
      refine iff_of_false (fun impossible => nomatch impossible) fun stays => ?_
      cases stays.mem
  | append_singleton earlier last induction =>
      have same : (name, block) = (last.name, last.block) ↔ ⟨name, block⟩ = last := by
        cases last
        simp
      rw [ofList_concat, lastIn_concat, ← induction, ← same]
      exact Dictionary.mem_insert

theorem mem_keys_ofList {name : String} :
    name ∈ (ofList upstreams).blocks.keys ↔ name ∈ upstreams.map (·.name) := by
  unfold Dictionary.keys
  rw [List.mem_map, List.mem_map]
  constructor
  · rintro ⟨⟨name, block⟩, inside, rfl⟩
    have stays : LastIn upstreams ⟨name, block⟩ := mem_ofList.mp inside
    exact ⟨_, stays.mem, rfl⟩
  · rintro ⟨upstream, inside, rfl⟩
    have ⟨kept, stays, named⟩ := exists_lastIn inside
    exact ⟨(kept.name, kept.block), mem_ofList.mpr stays, named⟩

theorem size_ofList : (ofList upstreams).size = (upstreams.map (·.name)).dedup.length := by
  have ordered : (ofList upstreams).blocks.keys.Pairwise (· < ·) :=
    List.pairwise_map.mpr (ofList upstreams).blocks.sorted
  have distinct : (ofList upstreams).blocks.keys.Nodup := ordered.nodup
  have same : (ofList upstreams).blocks.keys.Perm (upstreams.map (·.name)).dedup := by
    refine (List.perm_ext_iff_of_nodup distinct (List.nodup_dedup _)).mpr fun name => ?_
    rw [mem_keys_ofList, List.mem_dedup]
  exact (List.length_map _).symm.trans same.length_eq

theorem isEmpty_ofList : (ofList upstreams).isEmpty = true ↔ upstreams = [] := by
  have names : (ofList upstreams).blocks.keys = [] ↔ upstreams.map (·.name) = [] := by
    simp only [List.eq_nil_iff_forall_not_mem, mem_keys_ofList]
  have entries : (ofList upstreams).isEmpty = true ↔ (ofList upstreams).blocks.keys = [] :=
    List.isEmpty_iff.trans List.map_eq_nil_iff.symm
  rw [entries, names, List.map_eq_nil_iff]

/-- Sets to which the same blocks were added are the same, if equal names came with equal blocks. -/
theorem ofList_eq_of_mem_iff (agree : Agree upstreams)
    (same : ∀ upstream, upstream ∈ others ↔ upstream ∈ upstreams) : ofList others = ofList upstreams := by
  have agreeToo : Agree others := fun one inside other insideToo =>
    agree one ((same one).mp inside) other ((same other).mp insideToo)
  apply congrArg UpstreamSet.mk
  apply Dictionary.eq_of_mem_iff
  rintro ⟨name, block⟩
  calc (name, block) ∈ (ofList others).blocks.entries
    _ ↔ LastIn others ⟨name, block⟩ := mem_ofList
    _ ↔ ⟨name, block⟩ ∈ others := agreeToo.lastIn_iff
    _ ↔ ⟨name, block⟩ ∈ upstreams := same _
    _ ↔ LastIn upstreams ⟨name, block⟩ := agree.lastIn_iff.symm
    _ ↔ (name, block) ∈ (ofList upstreams).blocks.entries := mem_ofList.symm

/-- The blocks of a set with their names, in order. -/
def kept (set : UpstreamSet) : List Upstream := set.blocks.entries.map fun entry => ⟨entry.1, entry.2⟩

theorem map_name_kept (set : UpstreamSet) : set.kept.map (·.name) = set.blocks.keys := List.map_map

theorem map_block_kept (set : UpstreamSet) : set.kept.map (·.block) = set.blocks.values := List.map_map

theorem mem_kept {set : UpstreamSet} :
    upstream ∈ set.kept ↔ (upstream.name, upstream.block) ∈ set.blocks.entries := by
  unfold kept
  rw [List.mem_map]
  constructor
  · rintro ⟨entry, inside, rfl⟩
    exact inside
  · intro inside
    exact ⟨_, inside, rfl⟩

/-- What is sent of the blocks that were added: the last one of each name, in the order of the bytes of the
names. There are as many as there are names, and none only if nothing was added. Where equal names come with
equal blocks, it does not matter in which order and how often blocks are added. -/
theorem renders_last (upstreams : List Upstream) :
    (∃ kept : List Upstream,
      (ofList upstreams).render = "\n".intercalate (kept.map (·.block)) ∧
      kept.Pairwise (fun first second => Utf8.encode first.name < Utf8.encode second.name) ∧
      (∀ name, name ∈ kept.map (·.name) ↔ name ∈ upstreams.map (·.name)) ∧
      ∀ upstream, upstream ∈ kept ↔ LastIn upstreams upstream) ∧
    (ofList upstreams).size = (upstreams.map (·.name)).dedup.length ∧
    ((ofList upstreams).isEmpty = true ↔ upstreams = []) ∧
    (Agree upstreams → ∀ others : List Upstream, (∀ upstream, upstream ∈ others ↔ upstream ∈ upstreams) →
      (ofList others).render = (ofList upstreams).render) := by
  refine ⟨⟨(ofList upstreams).kept, ?_, ?_, ?_, ?_⟩, size_ofList, isEmpty_ofList, ?_⟩
  · rw [map_block_kept]
    rfl
  · refine List.pairwise_map.mpr ((ofList upstreams).blocks.sorted.imp fun below => ?_)
    exact Utf8.encode_lt_iff.mpr below
  · intro name
    rw [map_name_kept, mem_keys_ofList]
  · intro upstream
    rw [mem_kept, mem_ofList]
  · intro agree others same
    rw [ofList_eq_of_mem_iff agree same]

/-- A block that is added twice, around another one, is sent as if each was added once and in order. -/
theorem renders_last_repeated :
    Agree [⟨"pool-b", "upstream b"⟩, ⟨"pool-a", "upstream a"⟩, ⟨"pool-b", "upstream b"⟩] ∧
      (ofList [⟨"pool-a", "upstream a"⟩, ⟨"pool-b", "upstream b"⟩]).render =
        (ofList [⟨"pool-b", "upstream b"⟩, ⟨"pool-a", "upstream a"⟩, ⟨"pool-b", "upstream b"⟩]).render := by
  have agree : Agree [⟨"pool-b", "upstream b"⟩, ⟨"pool-a", "upstream a"⟩, ⟨"pool-b", "upstream b"⟩] := by
    unfold Agree
    decide
  exact ⟨agree, (renders_last _).2.2.2 agree _ fun upstream => by simp; tauto⟩

end UpstreamSet
end ProxyOperator
