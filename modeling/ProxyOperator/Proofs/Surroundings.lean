import ProxyOperator.Proofs.Attempt
import ProxyOperator.Watch
/-!
Surroundings of passes on hosts, and the objects in them that hosts refer to. Surroundings that differ in
one such object only look the same to whoever asks nothing about it.
-/
namespace ProxyOperator

/-- What there is of a sort. -/
@[reducible] def Referent.Object : Referent → Type
  | .letsEncryptCertificate => LetsEncryptCertificate
  | .customCertificate => CustomCertificate
  | .accessList => AccessList
  | .token => Token
  | .service => Service

/-- The sort of things that a kind of resources is, if hosts refer to them. -/
def Kind.referent? : Kind → Option Referent
  | .proxyHost => none
  | .stream => none
  | .token => some .token
  | .letsEncryptCertificate => some .letsEncryptCertificate
  | .customCertificate => some .customCertificate
  | .accessList => some .accessList

/-- The objects of one sort by their keys, each as it is read: an object that cannot be understood is read
with a failure. -/
abbrev Shelf (α : Type) := List (ObjectKey × Except Failure α)

namespace Shelf

variable {α : Type} {shelf first second : Shelf α} {key object : ObjectKey}

def get (shelf : Shelf α) (key : ObjectKey) : Except Failure (Option α) :=
  match shelf.lookup key with
  | some content => some <$> content
  | none => .ok none

/-- The objects of a namespace, or all of them. -/
def list (shelf : Shelf α) (scope : Option String) : Except Failure (List α) :=
  (shelf.filter fun entry => scope.all (· = entry.1.namespace)).mapM (·.2)

def without (shelf : Shelf α) (object : ObjectKey) : Shelf α :=
  shelf.filter fun entry => entry.1 ≠ object

theorem get_without (different : key ≠ object) : (shelf.without object).get key = shelf.get key := by
  have same : (shelf.without object).lookup key = shelf.lookup key := by
    induction shelf with
    | nil => rfl
    | cons entry rest induction =>
        unfold without at induction ⊢
        rw [List.filter_cons]
        by_cases own : entry.1 = object
        · have other : (key == entry.1) = false := by
            rw [own]
            exact beq_false_of_ne different
          rw [if_neg (by simp [own]), induction, List.lookup_cons, other]
        · rw [if_pos (by simp [own]), List.lookup_cons, List.lookup_cons, induction]
  unfold get
  rw [same]

theorem list_without {«namespace» : String} (different : «namespace» ≠ object.namespace) :
    (shelf.without object).list (some «namespace») = shelf.list (some «namespace») := by
  unfold list without
  rw [List.filter_filter]
  congr 1
  apply List.filter_congr
  intro entry _
  by_cases inside : «namespace» = entry.1.namespace
  · have other : entry.1 ≠ object := by
      rintro rfl
      exact different inside
    simp [inside, other]
  · simp [inside]

/-- Shelves that differ in one object only are the same to whoever reads another one. -/
theorem get_eq (same : first.without object = second.without object) (different : key ≠ object) :
    first.get key = second.get key := by
  rw [← get_without different, same, get_without different]

theorem list_eq {«namespace» : String} (same : first.without object = second.without object)
    (different : «namespace» ≠ object.namespace) :
    first.list (some «namespace») = second.list (some «namespace») := by
  rw [← list_without different, same, list_without different]

end Shelf

/-- Where a pass on a host is run: what hosts refer to, and all the rest. -/
structure Surroundings (ρ : Type) where
  shelf : (referent : Referent) → Shelf referent.Object
  rest : ρ

/-- How the rest behaves: it answers what is not about the objects that hosts refer to, and decides whether a
read of them gets through or is answered otherwise, as by a failure. -/
structure Nature (ρ : Type) where
  respond : ρ → (effect : Effect) → effect.Answer × ρ
  serves : ρ → Effect → Bool

/-- What a pass in surroundings comes to: what it ends with, all it asked and was answered, and the
surroundings that it leaves. -/
structure Visit (ρ α : Type) where
  outcome : α
  log : List (Exchange Effects)
  surroundings : Surroundings ρ

namespace Surroundings

variable {ρ α : Type}

def ofKind? (surroundings : Surroundings ρ) : (kind : Kind) → Option (Shelf (Resource kind))
  | .proxyHost => none
  | .stream => none
  | .token => some (surroundings.shelf .token)
  | .letsEncryptCertificate => some (surroundings.shelf .letsEncryptCertificate)
  | .customCertificate => some (surroundings.shelf .customCertificate)
  | .accessList => some (surroundings.shelf .accessList)

/-- What is read of the objects that hosts refer to. -/
def lookUp (surroundings : Surroundings ρ) : (effect : Effect) → Option effect.Answer
  | .read kind key => (surroundings.ofKind? kind).map fun shelf => shelf.get key
  | .list kind scope => (surroundings.ofKind? kind).map fun shelf => shelf.list scope
  | .service key => some ((surroundings.shelf .service).get key)
  | _ => none

def respond (nature : Nature ρ) (surroundings : Surroundings ρ) (effect : Effect) :
    effect.Answer × Surroundings ρ :=
  let (given, rest) := nature.respond surroundings.rest effect
  let answer :=
    match surroundings.lookUp effect with
    | some found => if nature.serves surroundings.rest effect then found else given
    | none => given
  (answer, ⟨surroundings.shelf, rest⟩)

def visit (nature : Nature ρ) : Program Effects α → Surroundings ρ → Visit ρ α
  | .done value, surroundings => ⟨value, [], surroundings⟩
  | .ask request next, surroundings =>
      let (answer, after) := surroundings.respond nature request
      let further := visit nature (next answer) after
      { further with log := ⟨request, answer⟩ :: further.log }

/-- Surroundings that differ in the presence or the content of one object only. -/
structure Alike (referent : Referent) (object : ObjectKey) (here there : Surroundings ρ) : Prop where
  rest : here.rest = there.rest
  others : ∀ other, other ≠ referent → here.shelf other = there.shelf other
  same : (here.shelf referent).without object = (there.shelf referent).without object

end Surroundings

/-- A request that asks nothing about an object, and that writes to nothing that hosts refer to. -/
def Effect.Spares (referent : Referent) (object : ObjectKey) : Effect → Prop
  | .read kind key => kind.referent? = some referent → key ≠ object
  | .list kind scope =>
      kind.referent? = some referent → ∃ «namespace» ∈ scope, «namespace» ≠ object.namespace
  | .service key => referent = .service → key ≠ object
  | .writeStatus kind _ _ _ => kind.referent? = none
  | .addFinalizer kind _ => kind.referent? = none
  | .removeFinalizer kind _ => kind.referent? = none
  | _ => True

namespace Surroundings.Alike

variable {ρ α : Type} {referent : Referent} {object : ObjectKey} {here there : Surroundings ρ}

theorem get {other : Referent} {key : ObjectKey} (alike : Alike referent object here there)
    (spared : other = referent → key ≠ object) :
    (here.shelf other).get key = (there.shelf other).get key := by
  by_cases own : other = referent
  · subst own
    exact Shelf.get_eq alike.same (spared rfl)
  · rw [alike.others other own]

theorem list {other : Referent} {scope : Option String} (alike : Alike referent object here there)
    (spared : other = referent → ∃ «namespace» ∈ scope, «namespace» ≠ object.namespace) :
    (here.shelf other).list scope = (there.shelf other).list scope := by
  by_cases own : other = referent
  · subst own
    rcases spared rfl with ⟨_, rfl, different⟩
    exact Shelf.list_eq alike.same different
  · rw [alike.others other own]

/-- To a request that asks nothing about the object both look the same. -/
theorem lookUp {effect : Effect} (alike : Alike referent object here there)
    (spares : effect.Spares referent object) : here.lookUp effect = there.lookUp effect := by
  cases effect with
  | read kind key =>
      cases kind with
      | proxyHost | stream => rfl
      | _ => exact congrArg some (alike.get fun own => spares (congrArg some own))
  | list kind scope =>
      cases kind with
      | proxyHost | stream => rfl
      | _ => exact congrArg some (alike.list fun own => spares (congrArg some own))
  | service key => exact congrArg some (alike.get fun own => spares own.symm)
  | _ => rfl

/-- Such a request is answered in the same way, and both stay alike. -/
theorem respond {effect : Effect} (nature : Nature ρ) (alike : Alike referent object here there)
    (spares : effect.Spares referent object) :
    (here.respond nature effect).1 = (there.respond nature effect).1 ∧
      Alike referent object (here.respond nature effect).2 (there.respond nature effect).2 := by
  have looked := alike.lookUp spares
  have rest := alike.rest
  unfold Surroundings.respond
  rw [looked, rest]
  exact ⟨rfl, rfl, alike.others, alike.same⟩

/-- A program of such requests comes to the same in both. -/
theorem visit {program : Program Effects α} (nature : Nature ρ)
    (alike : Alike referent object here there)
    (spares : Program.Asks (Effect.Spares referent object) program) :
    (here.visit nature program).outcome = (there.visit nature program).outcome ∧
      (here.visit nature program).log = (there.visit nature program).log ∧
      Alike referent object (here.visit nature program).surroundings
        (there.visit nature program).surroundings := by
  induction program generalizing here there with
  | done value => exact ⟨rfl, rfl, alike⟩
  | ask request next induction =>
      have ⟨answered, after⟩ := alike.respond nature spares.1
      unfold Surroundings.visit
      generalize here.respond nature request = one at answered after ⊢
      generalize there.respond nature request = other at answered after ⊢
      rcases one with ⟨answer, _⟩
      rcases other with ⟨_, _⟩
      rcases answered with rfl
      have ⟨outcome, log, further⟩ := induction answer after (spares.2 answer)
      exact ⟨outcome, congrArg (fun rest => ⟨request, answer⟩ :: rest) log, further⟩

end Surroundings.Alike

end ProxyOperator
