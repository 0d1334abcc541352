import Mathlib.Data.List.Sort
import ProxyOperator.Proofs.Claims
import ProxyOperator.Proofs.Dictionaries
import ProxyOperator.Proofs.Sessions
import ProxyOperator.Proofs.Wording
/-!
Lists in other orders. The cluster lists what there is in any order, and what passes make of such a list does
not depend on it: which Token is the first, which nodes run live pods, and whether a claim comes too late.
-/
namespace ProxyOperator

open Attempt Reconcile

/-! ## What is made of lists -/

theorem distinctTexts_perm {texts others : List String} (same : texts.Perm others) :
    distinctTexts texts = distinctTexts others := by
  refine (distinctTexts_sorted texts).eq_of_mem_iff (distinctTexts_sorted others) fun text => ?_
  rw [mem_distinctTexts, mem_distinctTexts]
  exact same.mem_iff

namespace Reconcile

theorem firstByName_perm {tokens others : List Token} (same : tokens.Perm others)
    (distinct : (tokens.map (·.metadata.spokenName)).Nodup) :
    firstByName tokens = firstByName others := by
  cases first : firstByName tokens with
  | none =>
      rw [eq_nil_of_firstByName first] at same
      rw [← same.nil_eq]
      rfl
  | some token =>
      cases second : firstByName others with
      | none =>
          rw [eq_nil_of_firstByName second] at same
          rw [same.eq_nil] at first
          cases first
      | some other =>
          have inside := mem_of_firstByName first
          have insideToo := same.mem_iff.mpr (mem_of_firstByName second)
          have before := firstByName_le first other insideToo
          have after := firstByName_le second token (same.mem_iff.mp inside)
          exact congrArg some
            (List.inj_on_of_nodup_map distinct inside insideToo (le_antisymm before after))

end Reconcile

theorem Target.liveNodes_perm {pods others : List Pod} (same : pods.Perm others) :
    liveNodes pods = liveNodes others :=
  distinctTexts_perm (same.filterMap _)

/-! ## Worlds that list in other orders -/

/-- Answers are the same, but a list may be in another order. -/
def Effect.Reorders : (effect : Effect) → effect.Answer → effect.Answer → Prop
  | .list _ _ => Matches List.Perm Eq
  | .pods _ _ => Matches List.Perm Eq
  | _ => Eq

/-- A request that is not answered with a list of what there is in the cluster. -/
def Effect.Unlisted : Effect → Prop
  | .list _ _ => False
  | .pods _ _ => False
  | _ => True

/-- Worlds that differ in the order of lists only. No two Tokens of a namespace are called the same. -/
structure Shuffled {ρ : Type} (here there : Respondent ρ) : Prop where
  answers : ∀ state (effect : Effect), effect.Reorders (here state effect).1 (there state effect).1
  states : ∀ state effect, (here state effect).2 = (there state effect).2
  distinct : ∀ state «namespace» tokens,
    (here state (.list .token (some «namespace»))).1 = .ok tokens →
    (tokens.map (·.metadata.spokenName)).Nodup

variable {ρ ε ε' α β : Type} {here there : Respondent ρ} {words : String → Prop}

namespace Shuffled

theorem eq_of_unlisted {effect : Effect} (shuffled : Shuffled here there) (state : ρ)
    (unlisted : effect.Unlisted) : here state effect = there state effect := by
  have answers := shuffled.answers state effect
  refine Prod.ext ?_ (shuffled.states state effect)
  cases effect with
  | list | pods => exact unlisted.elim
  | _ => exact answers

theorem stay_eq {program : Program Effects α} (shuffled : Shuffled here there)
    (asks : Program.Asks Effect.Unlisted program) (state : ρ) :
    here.stay program state = there.stay program state :=
  Respondent.stay_eq (fun state _ unlisted => shuffled.eq_of_unlisted state unlisted) asks state

theorem list (shuffled : Shuffled here there) (kind : Kind) (scope : Option String) (state : ρ) :
    Stay.Alike Eq Eq
      (Matches (fun one other : List (Resource kind) =>
        one.Perm other ∧ ∃ state, (here state (.list kind scope)).1 = .ok one) Eq)
      (here.stay (Effect.list kind scope).ask state)
      (there.stay (Effect.list kind scope).ask state) := by
  have answers := shuffled.answers state (.list kind scope)
  refine Respondent.alike_ask rfl (Respondent.alike_done (shuffled.states _ _) ?_)
  generalize known : (here state (.list kind scope)).1 = one at answers ⊢
  generalize (there state (.list kind scope)).1 = other at answers ⊢
  cases answers with
  | ok same => exact .ok ⟨same, state, known⟩
  | error same => exact .error same

theorem pods (shuffled : Shuffled here there) («namespace» selector : String) (state : ρ) :
    Stay.Alike Eq Eq (Matches List.Perm Eq) (here.stay (Pass.pods «namespace» selector).run state)
      (there.stay (Pass.pods «namespace» selector).run state) :=
  Respondent.alike_ask rfl (Respondent.alike_done (shuffled.states _ _)
    (shuffled.answers state (.pods «namespace» selector)))

end Shuffled

/-! ## Attempts that go the same way -/

theorem Attempt.matches_eq_iff {one other : Except ε α} : Matches Eq Eq one other ↔ one = other := by
  constructor
  · rintro (⟨⟨⟩⟩ | ⟨⟨⟩⟩) <;> rfl
  · rintro rfl
    cases one with
    | ok value => exact .ok rfl
    | error failure => exact .error rfl

/-- An attempt comes to the same in two worlds, but for failures that may differ. -/
def Tracks (here there : Respondent ρ) (failures : ε → ε → Prop) (attempt : Attempt ε α) : Prop :=
  ∀ state, Stay.Alike Eq Eq (Matches Eq failures) (here.stay attempt.run state)
    (there.stay attempt.run state)

namespace Tracks

variable {failures : ε → ε → Prop}

theorem bind {attempt : Attempt ε α} {next : α → Attempt ε β}
    (first : Tracks here there failures attempt)
    (rest : ∀ value, Tracks here there failures (next value)) :
    Tracks here there failures (attempt >>= next) := by
  refine fun state => Respondent.alike_next (first state) ?_
  rintro value _ after _ rfl rfl
  exact rest value after

/-- What follows a list does not depend on its order. -/
theorem listing {list : Attempt ε (List β)} {next : List β → Attempt ε α}
    {related : List β → List β → Prop}
    (lists : ∀ state, Stay.Alike Eq Eq (Matches related failures) (here.stay list.run state)
      (there.stay list.run state))
    (same : ∀ one other, related one other → next one = next other)
    (rest : ∀ listed, Tracks here there failures (next listed)) :
    Tracks here there failures (list >>= next) := by
  refine fun state => Respondent.alike_next (lists state) ?_
  rintro one other after _ alike rfl
  rw [← same one other alike]
  exact rest one after

theorem outcome {attempt : Attempt ε α} {failures : ε' → ε' → Prop}
    (tracks : Tracks here there Eq attempt) :
    Tracks here there failures (ExceptT.lift attempt.run : Attempt ε' (Except ε α)) := fun state =>
  (Respondent.alike_outcome (tracks state)).mono (fun _ _ => id) (fun _ _ => id) fun _ _ ends => by
    cases ends with
    | ok same => exact .ok (matches_eq_iff.mp same)
    | error same => exact .error same

theorem staged_of {stage : Stage} {pass : Pass α} {failures : Failure → Failure → Prop}
    {stops : StageFailure → StageFailure → Prop} (tracks : Tracks here there failures pass)
    (implies : ∀ one other, failures one other → stops ⟨stage, one⟩ ⟨stage, other⟩) :
    Tracks here there stops (stage.run pass) := by
  refine fun state => Respondent.alike_bind (tracks state) fun _ _ _ _ ends leaves => ?_
  cases ends with
  | ok same => exact Respondent.alike_done leaves (.ok same)
  | error same => exact Respondent.alike_done leaves (.error (implies _ _ same))

theorem pure {value : α} : Tracks here there failures (Pure.pure value : Attempt ε α) :=
  fun _ => Respondent.alike_done rfl (.ok rfl)

theorem doIf {condition : Prop} [Decidable condition] {first : Attempt ε Unit}
    {next : Unit → Attempt ε β} (tracks : Tracks here there failures first)
    (rest : ∀ done, Tracks here there failures (next done)) :
    Tracks here there failures (if condition then first >>= next else next ()) := by
  split
  · exact bind tracks rest
  · exact rest ()

theorem mapM {item : α → Attempt ε β} (each : ∀ value, Tracks here there failures (item value))
    (values : List α) : Tracks here there failures (values.mapM item) := by
  induction values with
  | nil => exact pure
  | cons value rest induction =>
      rw [List.mapM_cons]
      exact .bind (each value) fun _ => .bind induction fun _ => pure

variable [Std.Refl failures]

theorem of_asks {attempt : Attempt ε α} (shuffled : Shuffled here there)
    (asks : Asks Effect.Unlisted attempt) : Tracks here there failures attempt := by
  intro state
  rw [shuffled.stay_eq asks]
  refine ⟨List.forall₂_same.mpr fun _ _ => rfl, rfl, ?_⟩
  cases (there.stay attempt.run state).outcome with
  | ok value => exact .ok rfl
  | error failure => exact .error (Std.Refl.refl failure)

theorem throw {failure : ε} :
    Tracks here there failures (MonadExcept.throw failure : Attempt ε α) :=
  fun _ => Respondent.alike_done rfl (.error (Std.Refl.refl failure))

theorem staged {stage : Stage} {pass : Pass α} {stops : StageFailure → StageFailure → Prop}
    [Std.Refl stops] (tracks : Tracks here there Eq pass) :
    Tracks here there stops (stage.run pass) :=
  staged_of tracks fun _ _ same => same ▸ Std.Refl.refl _

end Tracks

end ProxyOperator
