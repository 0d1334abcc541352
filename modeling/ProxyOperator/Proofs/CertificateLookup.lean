import ProxyOperator.Proofs.Domains
import ProxyOperator.Remote.Search
/-!
The certificate that is found for a host. It is one for just the domains of the host if there is one, and else one
with the wildcard name of the first domain, whatever the other domains are.
-/
namespace ProxyOperator

namespace Remote

/-- The first of those listed with a property. -/
def IsFirst (fits : Certificate → Prop) (listed : List Certificate) (certificate : Certificate) : Prop :=
  ∃ before after, listed = before ++ certificate :: after ∧ fits certificate ∧
    ∀ other ∈ before, ¬ fits other

theorem find?_eq_some_iff_isFirst {test : Certificate → Bool} {fits : Certificate → Prop}
    (tests : ∀ certificate, test certificate = true ↔ fits certificate) {listed : List Certificate}
    {certificate : Certificate} :
    listed.find? test = some certificate ↔ IsFirst fits listed certificate := by
  simp only [List.find?_eq_some_iff_append, tests, Bool.not_eq_true', Bool.eq_false_iff, ne_eq, IsFirst]
  grind

namespace Certificate

/-- A certificate for just these domains. -/
def IsFor (domains : List String) (certificate : Certificate) : Prop :=
  Domain.names certificate.domains = Domain.names domains

def Lists (name : String) (certificate : Certificate) : Prop := name ∈ Domain.names certificate.domains

/-- One of its names covers the domain. -/
def Covers (certificate : Certificate) (domain : String) : Prop :=
  ∃ name ∈ certificate.domains, Domain.Covers (Domain.normalize name) (Domain.normalize domain)

instance (certificate : Certificate) (domain : String) : Decidable (certificate.Covers domain) :=
  inferInstanceAs (Decidable (∃ name ∈ certificate.domains, _))

end Certificate

variable {domains : List String} {listed : List Certificate} {certificate : Certificate}

theorem findExactCertificate_eq_some_iff : findExactCertificate domains listed = some certificate ↔
    IsFirst (Certificate.IsFor domains) listed certificate :=
  find?_eq_some_iff_isFirst fun _ => Domain.sameSet_iff_names

theorem findExactCertificate_eq_none_iff : findExactCertificate domains listed = none ↔
    ∀ certificate ∈ listed, ¬ certificate.IsFor domains := by
  rw [findExactCertificate, List.find?_eq_none]
  simp only [Domain.sameSet_iff_names, Certificate.IsFor]

theorem findCertificateNaming_eq_some_iff {name : String} :
    findCertificateNaming name listed = some certificate ↔
      IsFirst (Certificate.Lists name) listed certificate :=
  find?_eq_some_iff_isFirst fun _ => List.contains_iff_mem

theorem findCertificateNaming_eq_none_iff {name : String} : findCertificateNaming name listed = none ↔
    ∀ certificate ∈ listed, ¬ certificate.Lists name := by
  rw [findCertificateNaming, List.find?_eq_none]
  simp only [List.contains_iff_mem]
  rfl

/-! ## The order of preference -/

/-- What a host goes by if no certificate is for just its domains: `*.` and what follows the first dot of its first
domain, if there is a further dot in it. -/
def WildcardOf (domains : List String) (name : String) : Prop :=
  ∃ first rest label zone, domains = first :: rest ∧
    Domain.Splits (Domain.normalize first) label zone ∧ '.' ∈ zone.toList ∧ name = "*." ++ zone

/-- What is to be found for a host among the certificates listed. -/
inductive Finds (domains : List String) (listed : List Certificate) : Option Certificate → Prop
  | exact {certificate : Certificate}
      (first : IsFirst (Certificate.IsFor domains) listed certificate) :
      Finds domains listed (some certificate)
  | wildcard {certificate : Certificate} {name : String}
      (other : ∀ certificate ∈ listed, ¬ certificate.IsFor domains) (stands : WildcardOf domains name)
      (first : IsFirst (Certificate.Lists name) listed certificate) :
      Finds domains listed (some certificate)
  | nothing (other : ∀ certificate ∈ listed, ¬ certificate.IsFor domains)
      (unlisted : ∀ name, WildcardOf domains name → ∀ certificate ∈ listed, ¬ certificate.Lists name) :
      Finds domains listed none

theorem wildcardOf_iff {name : String} :
    WildcardOf domains name ↔ domains.head?.bind Domain.wildcard? = some name := by
  cases domains with
  | nil => simp [WildcardOf]
  | cons first rest =>
      simp only [List.head?_cons, Option.bind_some, Domain.wildcard?_eq_some_iff]
      constructor
      · rintro ⟨_, _, label, zone, ⟨⟩, stands⟩
        exact ⟨label, zone, stands⟩
      · rintro ⟨label, zone, stands⟩
        exact ⟨first, rest, label, zone, rfl, stands⟩

theorem findCertificate_of_exact (exact : findExactCertificate domains listed = some certificate) :
    findCertificate domains listed = some certificate := by
  rw [findCertificate, exact]
  rfl

theorem findCertificate_of_other (other : findExactCertificate domains listed = none) :
    findCertificate domains listed =
      (domains.head?.bind Domain.wildcard?).bind fun name => findCertificateNaming name listed := by
  rw [findCertificate, other]
  rfl

theorem findCertificate_finds : Finds domains listed (findCertificate domains listed) := by
  cases exact : findExactCertificate domains listed with
  | some certificate =>
      rw [findCertificate_of_exact exact]
      exact .exact (findExactCertificate_eq_some_iff.mp exact)
  | none =>
      have other := findExactCertificate_eq_none_iff.mp exact
      rw [findCertificate_of_other exact]
      cases stands : domains.head?.bind Domain.wildcard? with
      | none =>
          apply Finds.nothing other
          intro name wild
          cases stands.symm.trans (wildcardOf_iff.mp wild)
      | some name =>
          rw [Option.bind_some]
          cases naming : findCertificateNaming name listed with
          | some certificate =>
              exact .wildcard other (wildcardOf_iff.mpr stands)
                (findCertificateNaming_eq_some_iff.mp naming)
          | none =>
              apply Finds.nothing other
              intro another wild
              cases stands.symm.trans (wildcardOf_iff.mp wild)
              exact findCertificateNaming_eq_none_iff.mp naming

theorem Finds.eq {answer : Option Certificate} (finds : Finds domains listed answer) :
    findCertificate domains listed = answer := by
  cases finds with
  | exact first => exact findCertificate_of_exact (findExactCertificate_eq_some_iff.mpr first)
  | wildcard other stands first =>
      rw [findCertificate_of_other (findExactCertificate_eq_none_iff.mpr other),
        wildcardOf_iff.mp stands]
      exact findCertificateNaming_eq_some_iff.mpr first
  | nothing other unlisted =>
      rw [findCertificate_of_other (findExactCertificate_eq_none_iff.mpr other)]
      cases stands : domains.head?.bind Domain.wildcard? with
      | none => rfl
      | some name => exact findCertificateNaming_eq_none_iff.mpr (unlisted name (wildcardOf_iff.mpr stands))

/-- Hosts whose domains are the same, and whose first domains have the same wildcard name, find the same. -/
theorem findCertificate_congr {others : List String} (same : Domain.names domains = Domain.names others)
    (wildcards : domains.head?.bind Domain.wildcard? = others.head?.bind Domain.wildcard?)
    (listed : List Certificate) : findCertificate domains listed = findCertificate others listed := by
  have alike (certificate : Certificate) :
      Domain.sameSet certificate.domains domains = Domain.sameSet certificate.domains others := by
    rw [Bool.eq_iff_iff, Domain.sameSet_iff_names, Domain.sameSet_iff_names, same]
  unfold findCertificate findExactCertificate
  simp only [alike, wildcards]

/-- The lookup comes to what is to be found, which is a certificate for just the domains if there is one; the
spelling of the domains does not matter, nor the order and the repetition of those after the first. -/
theorem findCertificate_prefers (domains : List String) (listed : List Certificate) :
    (∀ answer, findCertificate domains listed = answer ↔ Finds domains listed answer) ∧
    (∀ certificate, findExactCertificate domains listed = some certificate →
      findCertificate domains listed = some certificate) ∧
    (∀ others, List.Forall₂ Domain.Respells domains others →
      findCertificate others listed = findCertificate domains listed) ∧
    ∀ first rest others, domains = first :: rest →
      (∀ domain, domain ∈ first :: others ↔ domain ∈ first :: rest) →
      findCertificate (first :: others) listed = findCertificate domains listed := by
  refine ⟨fun answer => ⟨?_, Finds.eq⟩, fun certificate => findCertificate_of_exact, ?_, ?_⟩
  · rintro rfl
    exact findCertificate_finds
  · intro others respelled
    apply (findCertificate_congr _ _ listed).symm
    · rw [Domain.names, Domain.names, Domain.normalize_of_forall₂ respelled]
    · cases respelled with
      | nil => rfl
      | cons respells _ =>
          simp only [List.head?_cons, Option.bind_some, Domain.wildcard?, respells.normalize]
  · rintro first rest others rfl reordered
    have same : Domain.names (first :: others) = Domain.names (first :: rest) := by
      ext name
      simp only [Domain.names, Set.mem_ofPred_eq, List.mem_map, reordered]
    exact findCertificate_congr same rfl listed

namespace Sample

def wildcard : Certificate := { (default : Certificate) with id := 5, domains := ["*.example.com"] }

def pair : Certificate :=
  { (default : Certificate) with id := 6, domains := ["b.example.com", "a.example.com"] }

end Sample

/-- A certificate for just the domains is found behind one with their wildcard name, in whatever order and spelling
they are declared. -/
theorem findCertificate_prefers_pair :
    findCertificate [" A.Example.com", "b.example.com"] [Sample.wildcard, Sample.pair] =
      some Sample.pair := by
  have ⟨whole, other⟩ : Sample.pair.IsFor [" A.Example.com", "b.example.com"] ∧
      ¬ Sample.wildcard.IsFor [" A.Example.com", "b.example.com"] := by
    have respelled : Domain.normalize " A.Example.com" = "a.example.com" := by decide +kernel
    have first : Domain.normalize "a.example.com" = "a.example.com" := by decide +kernel
    have second : Domain.normalize "b.example.com" = "b.example.com" := by decide +kernel
    have wild : Domain.normalize "*.example.com" = "*.example.com" := by decide +kernel
    constructor
    · ext name
      simp [Domain.names, Sample.pair, respelled, first, second, or_comm]
    · intro same
      have listed : "a.example.com" ∈ Domain.names Sample.wildcard.domains := by
        rw [same]
        simp [Domain.names, respelled]
      simp [Domain.names, Sample.wildcard, wild] at listed
  have exactly : findExactCertificate [" A.Example.com", "b.example.com"]
      [Sample.wildcard, Sample.pair] = some Sample.pair :=
    findExactCertificate_eq_some_iff.mpr ⟨[Sample.wildcard], [], rfl, whole, by simpa using other⟩
  exact (findCertificate_prefers [" A.Example.com", "b.example.com"]
    [Sample.wildcard, Sample.pair]).2.1 Sample.pair exactly

/-! ## Whether it covers the domains -/

theorem normalize_of_head? {wildcard : String} (stands : domains.head?.bind Domain.wildcard? = some wildcard) :
    Domain.normalize wildcard = wildcard := by
  rcases Option.bind_eq_some_iff.mp stands with ⟨first, _, stands⟩
  exact Domain.normalize_wildcard stands

/-- A certificate for nothing but the wildcard name of a host is found if there is no other. -/
theorem finds_lone {wildcard : String} (stands : domains.head?.bind Domain.wildcard? = some wildcard)
    (named : certificate.domains = [wildcard]) : Finds domains [certificate] (some certificate) := by
  by_cases whole : certificate.IsFor domains
  · exact .exact ⟨[], [], rfl, whole, nofun⟩
  · refine .wildcard ?_ (wildcardOf_iff.mpr stands) ⟨[], [], rfl, ?_, nofun⟩
    · simpa using whole
    · simp [Certificate.Lists, Domain.names, named, normalize_of_head? stands]

theorem Certificate.IsFor.covers (same : certificate.IsFor domains) {domain : String}
    (inside : domain ∈ domains) : certificate.Covers domain := by
  have meant : Domain.normalize domain ∈ Domain.names certificate.domains := by
    rw [same]
    exact List.mem_map_of_mem inside
  rcases List.mem_map.mp meant with ⟨own, listed, spelled⟩
  exact ⟨own, listed, .inl spelled.symm⟩

theorem Certificate.Lists.covers {name domain : String} (lists : certificate.Lists name)
    (covered : Domain.Covers name (Domain.normalize domain)) : certificate.Covers domain := by
  rcases List.mem_map.mp lists with ⟨own, listed, rfl⟩
  exact ⟨own, listed, covered⟩

/-- The wildcard name of a domain covers it, unless there is nothing before its first dot. -/
theorem covers_of_wildcard? {domain wildcard : String} (stands : Domain.wildcard? domain = some wildcard)
    (labelled : (Domain.normalize domain).toList.head? ≠ some '.') :
    Domain.Covers wildcard (Domain.normalize domain) := by
  rcases Domain.wildcard?_eq_some_iff.mp stands with ⟨label, zone, splits, _, rfl⟩
  refine .inr ⟨label, zone, splits, ?_, rfl⟩
  rintro rfl
  rw [splits.whole] at labelled
  simp at labelled

theorem covers_of_found (found : findCertificate domains listed = some certificate) {domain : String}
    (inside : domain ∈ domains)
    (meant : certificate.IsFor domains ∨ ∀ wildcard ∈ domains.head?.bind Domain.wildcard?,
      Domain.Covers wildcard (Domain.normalize domain)) : certificate.Covers domain := by
  have finds : Finds domains listed (some certificate) := found ▸ findCertificate_finds
  cases finds with
  | exact first =>
      rcases first with ⟨_, _, _, same, _⟩
      exact same.covers inside
  | wildcard other stands first =>
      rcases first with ⟨_, _, _, lists, _⟩
      cases meant with
      | inl same => exact same.covers inside
      | inr covered => exact lists.covers (covered _ (wildcardOf_iff.mp stands))

/-- A domain that is not covered by the wildcard name is not covered by a certificate for nothing else. -/
theorem exists_uncovered {domain wildcard : String}
    (stands : domains.head?.bind Domain.wildcard? = some wildcard)
    (uncovered : ¬ Domain.Covers wildcard (Domain.normalize domain)) : ∃ listed certificate,
      findCertificate domains listed = some certificate ∧ ¬ certificate.Covers domain := by
  let lone : Certificate := { (default : Certificate) with domains := [wildcard] }
  refine ⟨[lone], lone, (finds_lone stands rfl).eq, ?_⟩
  rintro ⟨name, own, covered⟩
  rw [List.mem_singleton.mp own, normalize_of_head? stands] at covered
  exact uncovered covered

/-- What is found for a host covers its first domain, and all domains that the wildcard name of the first one covers.
It covers the others too if it is for just the domains of the host, and may fail to do so else. -/
theorem found_covers (domains : List String) :
    (∀ listed certificate, findCertificate domains listed = some certificate → ∀ domain ∈ domains,
      (certificate.IsFor domains ∨ ∀ wildcard ∈ domains.head?.bind Domain.wildcard?,
        Domain.Covers wildcard (Domain.normalize domain)) → certificate.Covers domain) ∧
    (∀ domain ∈ domains, ∀ wildcard ∈ domains.head?.bind Domain.wildcard?,
      ¬ Domain.Covers wildcard (Domain.normalize domain) → ∃ listed certificate,
        findCertificate domains listed = some certificate ∧ ¬ certificate.Covers domain) ∧
    ∀ first ∈ domains.head?, (Domain.normalize first).toList.head? ≠ some '.' →
      ∀ listed certificate, findCertificate domains listed = some certificate →
        certificate.Covers first := by
  refine ⟨fun _ _ found _ => covers_of_found found, fun _ _ _ => exists_uncovered, ?_⟩
  intro first leads labelled listed certificate found
  have inside : first ∈ domains := List.mem_of_mem_head? leads
  refine covers_of_found found inside (.inr fun wildcard stands => ?_)
  rw [leads, Option.bind_some] at stands
  exact covers_of_wildcard? stands labelled

/-- The certificate that is found for two domains of one zone has the wildcard name of the zone, and covers
both. -/
theorem found_covers_siblings :
    findCertificate ["a.example.com", "b.example.com"] [Sample.wildcard] = some Sample.wildcard ∧
      ∀ domain ∈ ["a.example.com", "b.example.com"], Sample.wildcard.Covers domain := by
  have stands : ["a.example.com", "b.example.com"].head?.bind Domain.wildcard? = some "*.example.com" := by
    decide +kernel
  have found : findCertificate ["a.example.com", "b.example.com"] [Sample.wildcard] =
      some Sample.wildcard := (finds_lone stands rfl).eq
  have siblings : ∀ domain ∈ ["a.example.com", "b.example.com"],
      ∀ wildcard ∈ ["a.example.com", "b.example.com"].head?.bind Domain.wildcard?,
        Domain.Covers wildcard (Domain.normalize domain) := by decide +kernel
  refine ⟨found, fun domain inside => ?_⟩
  exact (found_covers ["a.example.com", "b.example.com"]).1 _ _ found domain inside
    (.inr (siblings domain inside))

/-- A certificate with the wildcard name of the first domain is found for domains in different zones. -/
theorem found_misses_other_zone :
    Domain.check ["a.example.com", "b.example.org"] = .ok () ∧
      findCertificate ["a.example.com", "b.example.org"] [Sample.wildcard] = some Sample.wildcard ∧
      ¬ Sample.wildcard.Covers "b.example.org" := by
  have stands : ["a.example.com", "b.example.org"].head?.bind Domain.wildcard? = some "*.example.com" := by
    decide +kernel
  exact ⟨by decide +kernel, (finds_lone stands rfl).eq, by decide +kernel⟩

end Remote
end ProxyOperator
