import Mathlib
import ProxyOperator.Reconcile.Claim
/-!
Who holds a claim. Each resource looks for rivals on its own, in a list of all resources in any order. The
keys of claims are ordered totally, so that what they decide on their own fits together.
-/
namespace ProxyOperator

/-! ## The order of claims -/

/-- Instants by their seconds, then by what is left. -/
def Instant.rank (instant : Instant) : ℤ ×ₗ ℕ := toLex (instant.second, instant.nano)

theorem Instant.rank_injective : Function.Injective Instant.rank := by
  rintro ⟨second, nano, _⟩ ⟨otherSecond, otherNano, _⟩ equal
  obtain ⟨rfl, rfl⟩ := Prod.mk.inj (toLex.injective equal)
  rfl

theorem Instant.lt_iff_rank_lt (first second : Instant) :
    first < second ↔ first.rank < second.rank := by
  change first.before second = true ↔ _
  simp only [rank, before, Prod.Lex.toLex_lt_toLex, Bool.or_eq_true, Bool.and_eq_true,
    decide_eq_true_eq]

namespace ClaimKey

/-- The time of creation, where none is before all others, then the namespace, then the name. -/
def rank (key : ClaimKey) : WithBot (ℤ ×ₗ ℕ) ×ₗ (String ×ₗ String) :=
  toLex (key.creation.elim ⊥ fun instant => (instant.rank : WithBot (ℤ ×ₗ ℕ)),
    toLex (key.object.namespace, key.object.name))

theorem objectBefore_iff (first second : ObjectKey) : objectBefore first second = true ↔
    toLex (first.namespace, first.name) < toLex (second.namespace, second.name) := by
  simp only [objectBefore, Prod.Lex.toLex_lt_toLex, Bool.or_eq_true, Bool.and_eq_true,
    decide_eq_true_eq]

theorem before_iff (first second : ClaimKey) :
    first.before second = true ↔ first.rank < second.rank := by
  rcases first with ⟨creation, object⟩
  rcases second with ⟨otherCreation, otherObject⟩
  rw [rank, rank, Prod.Lex.toLex_lt_toLex]
  dsimp only
  rw [← objectBefore_iff]
  cases creation with
  | none =>
      cases otherCreation with
      | none => simp [before]
      | some other => simp [before]
  | some one =>
      cases otherCreation with
      | none => simp [before]
      | some other =>
          simp [before, Instant.lt_iff_rank_lt, Instant.rank_injective.eq_iff]

theorem object_eq_of_rank_eq {first second : ClaimKey} (equal : first.rank = second.rank) :
    first.object = second.object := by
  have objects := congrArg Prod.snd (toLex.injective equal)
  obtain ⟨namespaces, names⟩ := Prod.mk.inj (toLex.injective objects)
  rcases first with ⟨_, ⟨_, _⟩⟩
  rcases second with ⟨_, ⟨_, _⟩⟩
  exact congrArg₂ ObjectKey.mk namespaces names

end ClaimKey

namespace Resource

variable {kind : Kind}

def rank (resource : Resource kind) : WithBot (ℤ ×ₗ ℕ) ×ₗ (String ×ₗ String) :=
  resource.claimKey.rank

theorem rank_ne_of_key_ne {first second : Resource kind} (different : first.key ≠ second.key) :
    first.rank ≠ second.rank :=
  fun equal => different (ClaimKey.object_eq_of_rank_eq equal)

theorem precedes_iff (other resource : Resource kind) : other.precedes resource = true ↔
    other.metadata.isDeleting = false ∧ other.key ≠ resource.key ∧ other.rank < resource.rank := by
  simp only [precedes, Bool.and_eq_true, Bool.not_eq_true', decide_eq_true_eq,
    ClaimKey.before_iff, and_assoc]
  rfl

end Resource

/-! ## Claims that are decided one by one -/

/-- The claims of some resources are decided, where `contests` says which two want the same and `refused`
which ones do not get it. -/
structure Arbitrated {kind : Kind} (contests : Resource kind → Resource kind → Prop)
    (refused : Resource kind → Prop) (resources : List (Resource kind)) : Prop where
  apart : ∀ first ∈ resources, ∀ second ∈ resources, first ≠ second →
    first.metadata.isDeleting = false → second.metadata.isDeleting = false →
    ¬ refused first → ¬ refused second → ¬ contests first second
  /-- Of two that want the same the one of the greater rank is refused. -/
  decided : ∀ first ∈ resources, ∀ second ∈ resources, first ≠ second →
    first.metadata.isDeleting = false → second.metadata.isDeleting = false →
    contests first second →
    first.rank < second.rank ∧ refused second ∨ second.rank < first.rank ∧ refused first
  founded : ∀ resource, refused resource → ∃ other ∈ resources,
    other.metadata.isDeleting = false ∧ other.rank < resource.rank ∧ contests resource other
  least : ∀ resource, (∀ other ∈ resources, other.metadata.isDeleting = false →
    resource.rank ≤ other.rank) → ¬ refused resource

/-- Whoever is refused just where another one precedes it that wants the same is rightly refused. -/
theorem Arbitrated.of_refused_iff {kind : Kind} {contests : Resource kind → Resource kind → Prop}
    {refused : Resource kind → Prop} {resources : List (Resource kind)}
    (symmetric : ∀ first second, contests first second → contests second first)
    (refused_iff : ∀ resource, refused resource ↔
      ∃ other ∈ resources, other.precedes resource = true ∧ contests resource other)
    (distinct : resources.Pairwise fun first second => first.key ≠ second.key) :
    Arbitrated contests refused resources := by
  have symmetricKeys : Std.Symm fun first second : Resource kind => first.key ≠ second.key :=
    ⟨fun _ _ => Ne.symm⟩
  have keys : ∀ first ∈ resources, ∀ second ∈ resources, first ≠ second →
      first.key ≠ second.key :=
    fun _ member _ other => distinct.forall member other
  have refuses : ∀ first ∈ resources, ∀ second, first.metadata.isDeleting = false →
      first.key ≠ second.key → first.rank < second.rank → contests second first →
      refused second := by
    intro first member second remains different lesser contest
    apply (refused_iff second).mpr
    exact ⟨first, member, (first.precedes_iff second).mpr ⟨remains, different, lesser⟩, contest⟩
  have decided : ∀ first ∈ resources, ∀ second ∈ resources, first ≠ second →
      first.metadata.isDeleting = false → second.metadata.isDeleting = false →
      contests first second →
      first.rank < second.rank ∧ refused second ∨ second.rank < first.rank ∧ refused first := by
    intro first member second other different remains stays contest
    have apart := keys first member second other different
    rcases lt_or_gt_of_ne (Resource.rank_ne_of_key_ne apart) with lesser | greater
    · exact .inl ⟨lesser, refuses first member second remains apart lesser (symmetric _ _ contest)⟩
    · exact .inr ⟨greater, refuses second other first stays apart.symm greater contest⟩
  have founded : ∀ resource, refused resource → ∃ other ∈ resources,
      other.metadata.isDeleting = false ∧ other.rank < resource.rank ∧
        contests resource other := by
    intro resource isRefused
    obtain ⟨other, member, precedes, contest⟩ := (refused_iff resource).mp isRefused
    have ⟨remains, _, lesser⟩ := (other.precedes_iff resource).mp precedes
    exact ⟨other, member, remains, lesser, contest⟩
  refine ⟨?_, decided, founded, ?_⟩
  · intro first member second other different remains stays accepted acceptedToo contest
    rcases decided first member second other different remains stays contest with
      ⟨_, isRefused⟩ | ⟨_, isRefused⟩
    · exact acceptedToo isRefused
    · exact accepted isRefused
  · intro resource least isRefused
    obtain ⟨other, member, remains, lesser, _⟩ := founded resource isRefused
    exact (least other member remains).not_gt lesser

/-- Where anybody wants something, somebody gets it: the one of the least rank. -/
theorem Arbitrated.exists_accepted {kind : Kind}
    {contests : Resource kind → Resource kind → Prop} {refused : Resource kind → Prop}
    {resources : List (Resource kind)} (arbitrated : Arbitrated contests refused resources)
    (wants : Resource kind → Prop)
    (spreads : ∀ first second, wants first → contests first second → wants second)
    {resource : Resource kind} (member : resource ∈ resources)
    (remains : resource.metadata.isDeleting = false) (wanted : wants resource) :
    ∃ accepted ∈ resources, accepted.metadata.isDeleting = false ∧ wants accepted ∧
      ¬ refused accepted := by
  let candidates : Set (Resource kind) :=
    {other | other ∈ resources ∧ other.metadata.isDeleting = false ∧ wants other}
  have finite : candidates.Finite := resources.finite_toSet.subset fun _ candidate => candidate.1
  obtain ⟨first, ⟨isMember, stays, wantedToo⟩, least⟩ :=
    Set.exists_min_image candidates Resource.rank finite ⟨resource, member, remains, wanted⟩
  refine ⟨first, isMember, stays, wantedToo, fun isRefused => ?_⟩
  obtain ⟨other, otherMember, otherRemains, lesser, contest⟩ := arbitrated.founded first isRefused
  have otherWants := spreads first other wantedToo contest
  exact (least other ⟨otherMember, otherRemains, otherWants⟩).not_gt lesser

/-! ## Domains and ports -/

/-- Two hosts declare the same domain, in spellings that may differ. -/
def ProxyHost.Contests (first second : ProxyHost) : Prop :=
  ∃ domain, domain ∈ first.spec.domains.map Domain.normalize ∧
    domain ∈ second.spec.domains.map Domain.normalize

theorem ProxyHost.contestedDomain?_isSome (host other : ProxyHost) :
    (host.contestedDomain? other).isSome = true ↔ host.Contests other := by
  rw [contestedDomain?, List.find?_isSome]
  simp only [List.contains_iff_mem]
  constructor
  · rintro ⟨domain, wanted, declared⟩
    exact ⟨domain, declared, wanted⟩
  · rintro ⟨domain, declared, wanted⟩
    exact ⟨domain, wanted, declared⟩

theorem ProxyHost.rival?_isSome (host : ProxyHost) (hosts : List ProxyHost) :
    (host.rival? hosts).isSome = true ↔
      ∃ other ∈ hosts, other.precedes host = true ∧ host.Contests other := by
  simp only [rival?, List.findSome?_isSome_iff, List.mem_filter, Option.isSome_map,
    contestedDomain?_isSome, and_assoc]

theorem ProxyHost.of_rival? {host rival : ProxyHost} {hosts : List ProxyHost} {domain : String}
    (found : host.rival? hosts = some (rival, domain)) :
    rival ∈ hosts ∧ rival.precedes host = true ∧ host.contestedDomain? rival = some domain := by
  obtain ⟨other, inside, contests⟩ := List.exists_of_findSome?_eq_some found
  obtain ⟨_, contested, same⟩ := Option.map_eq_some_iff.mp contests
  obtain ⟨rfl, rfl⟩ := Prod.mk.inj same
  obtain ⟨member, precedes⟩ := List.mem_filter.mp inside
  exact ⟨member, precedes, contested⟩

theorem ProxyHost.arbitrated (hosts : List ProxyHost)
    (distinct : hosts.Pairwise fun first second => first.key ≠ second.key) :
    Arbitrated Contests (fun host : ProxyHost => (host.rival? hosts).isSome = true) hosts := by
  apply Arbitrated.of_refused_iff _ (fun host : ProxyHost => host.rival?_isSome hosts) distinct
  rintro first second ⟨domain, declared, wanted⟩
  exact ⟨domain, wanted, declared⟩

/-- Two streams come in on the same port. -/
def Stream.Contests (first second : Stream) : Prop :=
  first.spec.incomingPort = second.spec.incomingPort

theorem Stream.rival?_isSome (stream : Stream) (streams : List Stream) :
    (stream.rival? streams).isSome = true ↔
      ∃ other ∈ streams, other.precedes stream = true ∧ stream.Contests other := by
  rw [rival?, List.find?_isSome]
  simp only [Contests, Bool.and_eq_true, decide_eq_true_eq]
  constructor
  · rintro ⟨other, member, same, precedes⟩
    exact ⟨other, member, precedes, same.symm⟩
  · rintro ⟨other, member, precedes, same⟩
    exact ⟨other, member, same.symm, precedes⟩

theorem Stream.of_rival? {stream rival : Stream} {streams : List Stream}
    (found : stream.rival? streams = some rival) :
    rival ∈ streams ∧ rival.precedes stream = true ∧ stream.Contests rival := by
  have holds := List.find?_some found
  rw [Bool.and_eq_true, decide_eq_true_eq] at holds
  exact ⟨List.mem_of_find?_eq_some found, holds.2, holds.1.symm⟩

theorem Stream.arbitrated (streams : List Stream)
    (distinct : streams.Pairwise fun first second => first.key ≠ second.key) :
    Arbitrated Contests (fun stream : Stream => (stream.rival? streams).isSome = true) streams := by
  apply Arbitrated.of_refused_iff _ (fun stream : Stream => stream.rival?_isSome streams) distinct
  exact fun first second same => same.symm

/-- A port that anybody wants is held by just one stream. -/
theorem Stream.holder_unique {streams : List Stream}
    (distinct : streams.Pairwise fun first second => first.key ≠ second.key) {stream : Stream}
    (member : stream ∈ streams) (remains : stream.metadata.isDeleting = false) :
    ∃! holder, holder ∈ streams ∧ holder.metadata.isDeleting = false ∧ stream.Contests holder ∧
      (holder.rival? streams).isSome = false := by
  have arbitrated := Stream.arbitrated streams distinct
  obtain ⟨holder, held, stays, wanted, accepted⟩ := arbitrated.exists_accepted stream.Contests
    (fun _ _ wants contest => wants.trans contest) member remains rfl
  refine ⟨holder, ⟨held, stays, wanted, eq_false_of_ne_true accepted⟩, ?_⟩
  rintro other ⟨otherHeld, otherStays, otherWanted, otherAccepted⟩
  by_contra different
  apply arbitrated.apart other otherHeld holder held different otherStays stays _ accepted
  · exact otherWanted.symm.trans wanted
  · exact ne_true_of_eq_false otherAccepted

end ProxyOperator
