import Mathlib.Logic.Relation
import ProxyOperator.Proofs.Attempt
/-!
Courses of a world in which passes are run, one after the other. A pass may stop at any point, and in
between the world changes on its own. What every pass lives up to holds all along such a course.
-/
namespace ProxyOperator

abbrev Running := Program Effects (Except Failure Action)

/-- How a world answers passes, which passes begin in it, and how it changes on its own. -/
structure Setting (σ : Type) where
  conduct : Conduct Effects σ
  begins : σ → Running → σ → Prop
  disturbs : σ → σ → Prop

structure Moment (σ : Type) where
  world : σ
  running : Option Running

def Moment.still {σ : Type} (world : σ) : Moment σ := ⟨world, none⟩

namespace Setting

variable {σ : Type}

/-- What may happen next. A pass that is left has ended, or was interrupted. -/
inductive Step (setting : Setting σ) : Moment σ → Moment σ → Prop
  | begin {before after : σ} {pass : Running} (begun : setting.begins before pass after) :
      Step setting ⟨before, none⟩ ⟨after, some pass⟩
  | exchange {before after : σ} {request : Effect} {answer : request.Answer}
      {next : request.Answer → Running} (answered : setting.conduct before ⟨request, answer⟩ after) :
      Step setting ⟨before, some (.ask request next)⟩ ⟨after, some (next answer)⟩
  | leave (world : σ) (pass : Running) : Step setting ⟨world, some pass⟩ ⟨world, none⟩
  | disturb {before after : σ} (disturbed : setting.disturbs before after) :
      Step setting ⟨before, none⟩ ⟨after, none⟩

abbrev Reaches (setting : Setting σ) : Moment σ → Moment σ → Prop :=
  Relation.ReflTransGen setting.Step

/-- In worlds that are steady, every exchange of every pass lives up to `step`, and worlds stay so. -/
structure Upholds (setting : Setting σ) (steady : σ → Prop)
    (step : σ → Exchange Effects → σ → Prop) : Prop where
  begins : ∀ {before pass after}, steady before → setting.begins before pass after →
    steady after ∧ Program.Meets setting.conduct step (fun _ _ => True) pass after
  exchanges : ∀ {before exchange after}, steady before → setting.conduct before exchange after →
    step before exchange after → steady after
  disturbs : ∀ {before after}, steady before → setting.disturbs before after → steady after

/-- The world is steady, and what is left of the running pass lives up to `step`. -/
structure Standing (setting : Setting σ) (steady : σ → Prop)
    (step : σ → Exchange Effects → σ → Prop) (moment : Moment σ) : Prop where
  steady : steady moment.world
  running : ∀ pass ∈ moment.running,
    Program.Meets setting.conduct step (fun _ _ => True) pass moment.world

/-- What a step does to the world: a pass begins, an exchange lives up to `step`, the world changes on
its own, or nothing happens. -/
inductive Shift (setting : Setting σ) (step : σ → Exchange Effects → σ → Prop) : σ → σ → Prop
  | begin {before after : σ} {pass : Running} (begun : setting.begins before pass after) :
      Shift setting step before after
  | exchange {before after : σ} {exchange : Exchange Effects}
      (answered : setting.conduct before exchange after) (kept : step before exchange after) :
      Shift setting step before after
  | leave (world : σ) : Shift setting step world world
  | disturb {before after : σ} (disturbed : setting.disturbs before after) :
      Shift setting step before after

section

variable {setting : Setting σ} {steady : σ → Prop} {step : σ → Exchange Effects → σ → Prop}
  {moment next : Moment σ}

theorem Standing.still {world : σ} (holds : steady world) :
    setting.Standing steady step (.still world) :=
  ⟨holds, fun _ none => nomatch none⟩

/-- A step from a moment where all is well leads to one, and does to the world what it may. -/
theorem Upholds.advance (upholds : setting.Upholds steady step)
    (standing : setting.Standing steady step moment) (taken : setting.Step moment next) :
    setting.Standing steady step next ∧ setting.Shift step moment.world next.world := by
  cases taken with
  | begin begun =>
      have ⟨holds, meets⟩ := upholds.begins standing.steady begun
      exact ⟨⟨holds, fun _ running => Option.some.inj running ▸ meets⟩, .begin begun⟩
  | exchange answered =>
      have ⟨kept, meets⟩ := standing.running _ rfl _ _ answered
      exact ⟨⟨upholds.exchanges standing.steady answered kept,
        fun _ running => Option.some.inj running ▸ meets⟩, .exchange answered kept⟩
  | leave world => exact ⟨⟨standing.steady, fun _ none => nomatch none⟩, .leave world⟩
  | disturb disturbed =>
      exact ⟨⟨upholds.disturbs standing.steady disturbed, fun _ none => nomatch none⟩,
        .disturb disturbed⟩

/-- All is well all along. -/
theorem Upholds.reaches (upholds : setting.Upholds steady step)
    (standing : setting.Standing steady step moment) (reaches : setting.Reaches moment next) :
    setting.Standing steady step next := by
  induction reaches with
  | refl => exact standing
  | tail _ taken induction => exact (upholds.advance induction taken).1

/-- What no step undoes is not undone later on either. -/
theorem Upholds.related (upholds : setting.Upholds steady step) (related : σ → σ → Prop)
    (same : ∀ world, related world world)
    (chain : ∀ {first second third}, related first second → related second third →
      related first third)
    (shifts : ∀ {before after}, steady before → setting.Shift step before after →
      related before after)
    (standing : setting.Standing steady step moment) (reaches : setting.Reaches moment next) :
    related moment.world next.world := by
  induction reaches with
  | refl => exact same _
  | tail earlier taken induction =>
      have reached := upholds.reaches standing earlier
      exact chain induction (shifts reached.steady (upholds.advance reached taken).2)

end

end Setting

end ProxyOperator
