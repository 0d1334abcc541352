import Mathlib.Data.List.Induction
import ProxyOperator.Proofs.Conditions
/-!
Conditions over a whole history of reports. A report takes the place of the condition of its type, and takes its
transition time over if the status stays; so what is told of a type is what the last report of it said, and its
transition time is that of the last report that brought another status.
-/
namespace ProxyOperator

namespace Condition

variable {conditions start : List Condition} {condition report : Condition} {type : String}

/-! ## The condition of a type -/

/-- The first condition of a type. -/
def of? (conditions : List Condition) (type : String) : Option Condition :=
  conditions.find? fun condition => condition.type = type

def status? (conditions : List Condition) (type : String) : Option ConditionStatus :=
  (of? conditions type).map (·.status)

theorem of?_eq_some (tidy : Tidy conditions) :
    of? conditions type = some condition ↔ condition ∈ conditions ∧ condition.type = type := by
  induction conditions with
  | nil => simp [of?]
  | cons head rest induction =>
      rcases List.nodup_cons.mp tidy with ⟨absent, restTidy⟩
      have further := induction restTidy
      unfold of? at further ⊢
      by_cases same : head.type = type
      · rw [List.find?_cons_of_pos (by simpa using same)]
        constructor
        · intro equal
          rcases Option.some.inj equal with rfl
          exact ⟨.head _, same⟩
        · rintro ⟨inside, called⟩
          rcases List.mem_cons.mp inside with rfl | later
          · rfl
          · exact absurd (List.mem_map.mpr ⟨condition, later, called.trans same.symm⟩) absent
      · rw [List.find?_cons_of_neg (by simpa using same), further, List.mem_cons]
        constructor
        · exact fun ⟨inside, called⟩ => ⟨.inr inside, called⟩
        · rintro ⟨rfl | inside, called⟩
          · exact absurd called same
          · exact ⟨inside, called⟩

theorem isTrue_eq (tidy : Tidy conditions) (type : String) :
    isTrue conditions type = decide (status? conditions type = some .true) := by
  rw [Bool.eq_iff_iff]
  simp only [isTrue, status?, List.any_eq_true, Option.map_eq_some_iff, of?_eq_some tidy,
    Bool.and_eq_true, decide_eq_true_eq, and_assoc]

/-- A report that follows a condition of its type has the transition time of that one if the status stays. -/
def following (old : Option Condition) (report : Condition) : Condition :=
  if old.map (·.status) = some report.status then
    { report with lastTransition := (old.map (·.lastTransition)).getD report.lastTransition }
  else report

theorem of?_set (conditions : List Condition) (report : Condition) (type : String) :
    of? (set conditions report) type =
      if report.type = type then some (following (of? conditions type) report)
      else of? conditions type := by
  induction conditions with
  | nil => by_cases same : report.type = type <;> simp [set, of?, same, following]
  | cons old rest induction =>
      unfold set
      by_cases same : old.type = report.type
      · by_cases asked : report.type = type <;> by_cases stays : old.status = report.status <;>
          simp [of?, same, asked, stays, following]
      · by_cases asked : old.type = type
        · subst asked
          simp [of?, same, Ne.symm same]
        · simp only [of?, if_neg same] at induction ⊢
          rw [List.find?_cons_of_neg (by simpa using asked), List.find?_cons_of_neg (by simpa using asked),
            induction]

/-! ## Steps -/

/-- What may be done to conditions, and when. -/
inductive Step where
  | set (condition : Condition)
  | reconciling (now : Instant) (generation : Option Int64) (message : String)
  | ready (now : Instant) (message : String)
  | error (now : Instant) (generation : Option Int64) (reason message : String)

namespace Step

def apply : Step → List Condition → List Condition
  | .set condition, conditions => Condition.set conditions condition
  | .reconciling now generation message, conditions =>
      markReconciling now generation message conditions
  | .ready now message, conditions => markReady now message conditions
  | .error now generation reason message, conditions =>
      markError now generation reason message conditions

def time : Step → Instant
  | .set condition => condition.lastTransition
  | .reconciling now _ _ | .ready now _ | .error now _ _ _ => now

/-- What a step reports, one condition of each type that it has something to say of. -/
def reports : Step → List Condition
  | .set condition => [condition]
  | .reconciling now generation message =>
      [⟨Condition.reconciling, .true, "Reconciling", message, now, generation⟩]
  | .ready now message =>
      [⟨Condition.ready, .true, "Synced", message, now, none⟩,
        ⟨Condition.reconciling, .false, "Synced", message, now, none⟩,
        ⟨Condition.error, .false, "Synced", message, now, none⟩]
  | .error now generation reason message =>
      [⟨Condition.error, .true, reason, message, now, generation⟩,
        ⟨Condition.ready, .false, reason, message, now, none⟩,
        ⟨Condition.reconciling, .false, reason, message, now, none⟩]

/-- A step that marks the course of a pass. -/
def Marks : Step → Prop
  | .set _ => False
  | _ => True

/-- A step that marks the end of a pass. -/
def Concludes : Step → Prop
  | .ready _ _ | .error _ _ _ _ => True
  | _ => False

variable {step : Step}

theorem apply_eq (step : Step) (conditions : List Condition) :
    step.apply conditions = step.reports.foldl Condition.set conditions := by
  cases step <;> rfl

theorem reports_tidy (step : Step) : Tidy step.reports := by
  cases step <;> simp [reports, Tidy, Condition.ready, Condition.reconciling, Condition.error]

theorem time_of_reports (reported : report ∈ step.reports) : report.lastTransition = step.time := by
  cases step <;> simp only [reports, List.mem_cons, List.not_mem_nil, or_false] at reported
  case set => rw [reported]; rfl
  case reconciling => rw [reported]; rfl
  case ready => rcases reported with rfl | rfl | rfl <;> rfl
  case error => rcases reported with rfl | rfl | rfl <;> rfl

end Step

/-- After reports of different types, the condition of a type is the report of it, if there is one. -/
theorem of?_foldl_set {reports : List Condition} (tidy : Tidy reports) (conditions : List Condition)
    (type : String) :
    of? (reports.foldl set conditions) type =
      match of? reports type with
      | some report => some (following (of? conditions type) report)
      | none => of? conditions type := by
  induction reports generalizing conditions with
  | nil => rfl
  | cons report rest induction =>
      rcases List.nodup_cons.mp tidy with ⟨absent, restTidy⟩
      rw [List.foldl_cons, induction restTidy, of?_set]
      by_cases same : report.type = type
      · have missing : of? rest type = none := by
          refine List.find?_eq_none.mpr fun other inside called => absent ?_
          exact List.mem_map.mpr ⟨other, inside, (of_decide_eq_true called).trans same.symm⟩
        have first : of? (report :: rest) type = some report :=
          List.find?_cons_of_pos (by simpa using same)
        rw [missing, first, if_pos same]
      · have others : of? (report :: rest) type = of? rest type :=
          List.find?_cons_of_neg (by simpa using same)
        rw [others, if_neg same]

/-! ## Histories -/

/-- Conditions after some steps. -/
def run (start : List Condition) (steps : List Step) : List Condition :=
  steps.foldl (fun conditions step => step.apply conditions) start

variable {steps : List Step} {step : Step} {time : Instant}

theorem run_append (start : List Condition) (earlier later : List Step) :
    run start (earlier ++ later) = run (run start earlier) later :=
  List.foldl_append

theorem run_snoc (start : List Condition) (steps : List Step) (step : Step) :
    run start (steps ++ [step]) = step.apply (run start steps) :=
  run_append start steps [step]

/-- A step puts in the condition of a type, or changes its status. -/
def Moves (conditions : List Condition) (type : String) (step : Step) : Prop :=
  status? (step.apply conditions) type ≠ status? conditions type

/-- The transition time of a type: the time of the last step that put in its condition or changed its status, and
what it was at first if there was no such step. -/
inductive Since (start : List Condition) (type : String) : List Step → Instant → Prop
  | initial {old : Condition} (there : old ∈ start) (called : old.type = type) :
      Since start type [] old.lastTransition
  | moved {steps : List Step} {step : Step} (moves : Moves (run start steps) type step) :
      Since start type (steps ++ [step]) step.time
  | stayed {steps : List Step} {step : Step} {time : Instant} (since : Since start type steps time)
      (stays : ¬ Moves (run start steps) type step) : Since start type (steps ++ [step]) time

/-- What was told of a type last, by a step or at first. -/
inductive Told (start : List Condition) (type : String) : List Step → Condition → Prop
  | initial {old : Condition} (there : old ∈ start) (called : old.type = type) :
      Told start type [] old
  | reported {steps : List Step} {step : Step} {report : Condition}
      (reported : report ∈ step.reports) (called : report.type = type) :
      Told start type (steps ++ [step]) report
  | silent {steps : List Step} {step : Step} {report : Condition}
      (told : Told start type steps report) (silent : type ∉ step.reports.map (·.type)) :
      Told start type (steps ++ [step]) report

/-- Two conditions that say the same, whatever their transition times. -/
structure SaysSame (one other : Condition) : Prop where
  type : one.type = other.type
  status : one.status = other.status
  reason : one.reason = other.reason
  message : one.message = other.message
  generation : one.generation = other.generation

theorem following_saysSame (old : Option Condition) (report : Condition) :
    (following old report).SaysSame report := by
  unfold following
  split <;> exact ⟨rfl, rfl, rfl, rfl, rfl⟩

/-! ### One step -/

theorem types_kept_by_set (conditions : List Condition) (report : Condition) :
    conditions.map (·.type) <+: (set conditions report).map (·.type) := by
  rw [types_set]
  split
  · exact List.prefix_refl _
  · exact List.prefix_append _ _

theorem foldl_set_kept (reports : List Condition) (tidy : Tidy conditions) :
    Tidy (reports.foldl set conditions) ∧
      conditions.map (·.type) <+: (reports.foldl set conditions).map (·.type) := by
  induction reports generalizing conditions with
  | nil => exact ⟨tidy, List.prefix_refl _⟩
  | cons report rest induction =>
      have placed : Tidy (set conditions report) := tidy.set
      rcases induction placed with ⟨restTidy, kept⟩
      exact ⟨restTidy, (types_kept_by_set conditions report).trans kept⟩

theorem of?_apply (step : Step) (conditions : List Condition) (type : String) :
    of? (step.apply conditions) type =
      match of? step.reports type with
      | some report => some (following (of? conditions type) report)
      | none => of? conditions type := by
  rw [step.apply_eq, of?_foldl_set step.reports_tidy]

theorem of?_apply_of_reported (reported : report ∈ step.reports) (conditions : List Condition) :
    of? (step.apply conditions) report.type =
      some (following (of? conditions report.type) report) := by
  rw [of?_apply, (of?_eq_some step.reports_tidy).mpr ⟨reported, rfl⟩]

/-! ### All steps -/

theorem run_kept (tidy : Tidy start) (steps : List Step) :
    Tidy (run start steps) ∧ start.map (·.type) <+: (run start steps).map (·.type) := by
  induction steps using List.reverseRecOn with
  | nil => exact ⟨tidy, List.prefix_refl _⟩
  | append_singleton steps step induction =>
      rcases induction with ⟨before, kept⟩
      rw [run_snoc, step.apply_eq]
      rcases foldl_set_kept step.reports before with ⟨after, further⟩
      exact ⟨after, kept.trans further⟩

/-- What a step reports is there after it, and stays. -/
theorem run_present (tidy : Tidy start) (reports : step ∈ steps) (reported : report ∈ step.reports) :
    report.type ∈ (run start steps).map (·.type) := by
  rcases List.append_of_mem reports with ⟨earlier, later, rfl⟩
  have after := (run_kept tidy (earlier ++ [step])).1
  have there := of?_apply_of_reported reported (run start earlier)
  rw [← run_snoc, of?_eq_some after] at there
  have kept := (run_kept after later).2
  rw [← run_append, List.append_assoc] at kept
  exact kept.subset (List.mem_map.mpr ⟨_, there⟩)

/-- What a condition says is what was told last of its type, and its time is that since which its status is what
it is. -/
theorem run_told (tidy : Tidy start) (steps : List Step)
    (there : of? (run start steps) type = some condition) :
    Since start type steps condition.lastTransition ∧
      ∃ report, Told start type steps report ∧ condition.SaysSame report := by
  induction steps using List.reverseRecOn generalizing condition with
  | nil =>
      rcases (of?_eq_some tidy).mp there with ⟨inside, called⟩
      exact ⟨.initial inside called, condition, .initial inside called, rfl, rfl, rfl, rfl, rfl⟩
  | append_singleton steps step induction =>
      rw [run_snoc, of?_apply] at there
      cases said : of? step.reports type with
      | none =>
          rw [said] at there
          rcases induction there with ⟨since, report, told, same⟩
          have silent : type ∉ step.reports.map (·.type) := by
            intro inside
            rcases List.mem_map.mp inside with ⟨other, member, called⟩
            exact List.find?_eq_none.mp said other member (decide_eq_true called)
          have stays : ¬ Moves (run start steps) type step := by
            intro moves
            apply moves
            rw [status?, of?_apply, said]
            rfl
          exact ⟨.stayed since stays, report, .silent told silent, same⟩
      | some report =>
          rw [said] at there
          rcases Option.some.inj there with rfl
          rcases (of?_eq_some step.reports_tidy).mp said with ⟨reported, called⟩
          have same := following_saysSame (of? (run start steps) type) report
          have after : status? (step.apply (run start steps)) type = some report.status := by
            rw [status?, of?_apply, said]
            exact congrArg some same.status
          refine ⟨?_, report, .reported reported called, same⟩
          by_cases stays : (of? (run start steps) type).map (·.status) = some report.status
          · rcases Option.map_eq_some_iff.mp stays with ⟨old, before, _⟩
            have since := (induction before).1
            have kept : (following (of? (run start steps) type) report).lastTransition =
                old.lastTransition := by
              rw [following, if_pos stays, before]
              rfl
            rw [kept]
            exact .stayed since fun moves => moves (after.trans stays.symm)
          · have fresh : (following (of? (run start steps) type) report).lastTransition = step.time := by
              rw [following, if_neg stays, step.time_of_reports reported]
            rw [fresh]
            exact .moved fun equal => stays (equal.symm.trans after)

/-! ## Ready and error -/

theorem status?_apply_of_reported (reported : report ∈ step.reports) (conditions : List Condition) :
    status? (step.apply conditions) report.type = some report.status := by
  rw [status?, of?_apply_of_reported reported]
  exact congrArg some (following_saysSame _ report).status

theorem status?_apply_reconciling (now : Instant) (generation : Option Int64) (message : String)
    (conditions : List Condition) (other : type ≠ reconciling) :
    status? ((Step.reconciling now generation message).apply conditions) type =
      status? conditions type := by
  have silent : of? (Step.reconciling now generation message).reports type = none := by
    simp [of?, Step.reports, Ne.symm other]
  rw [status?, of?_apply, silent]
  rfl

/-- After a step that concludes a pass none is under way, and either of ready and error is true. -/
theorem status?_concluded (concludes : step.Concludes) (conditions : List Condition) :
    status? (step.apply conditions) reconciling = some .false ∧
      (status? (step.apply conditions) ready = some .true ∧
          status? (step.apply conditions) error = some .false ∨
        status? (step.apply conditions) ready = some .false ∧
          status? (step.apply conditions) error = some .true) := by
  have told (report : Condition) (reported : report ∈ step.reports) :=
    status?_apply_of_reported reported conditions
  cases step with
  | set condition => cases concludes
  | reconciling now generation message => cases concludes
  | ready now message =>
      exact ⟨told _ (.tail _ (.head _)), .inl ⟨told _ (.head _), told _ (.tail _ (.tail _ (.head _)))⟩⟩
  | error now generation reason message =>
      exact ⟨told _ (.tail _ (.tail _ (.head _))), .inr ⟨told _ (.tail _ (.head _)), told _ (.head _)⟩⟩

theorem run_apart (marks : ∀ step ∈ steps, step.Marks)
    (apart : ¬ (status? start ready = some .true ∧ status? start error = some .true)) :
    ¬ (status? (run start steps) ready = some .true ∧ status? (run start steps) error = some .true) := by
  induction steps using List.reverseRecOn with
  | nil => exact apart
  | append_singleton steps step induction =>
      have before := induction fun other inside => marks other (List.mem_append_left _ inside)
      have mark := marks step (List.mem_append_right _ (.head _))
      rw [run_snoc]
      by_cases concludes : step.Concludes
      · rcases (status?_concluded concludes (run start steps)).2 with ⟨_, noError⟩ | ⟨notReady, _⟩
        · rw [noError]
          exact fun both => nomatch both.2
        · rw [notReady]
          exact fun both => nomatch both.1
      · cases step with
        | set condition => cases mark
        | reconciling now generation message =>
            rw [status?_apply_reconciling _ _ _ _ (by decide),
              status?_apply_reconciling _ _ _ _ (by decide)]
            exact before
        | ready now message => exact absurd trivial concludes
        | error now generation reason message => exact absurd trivial concludes

/-! ## Bookkeeping -/

/-- What holds of conditions after some steps. -/
structure Kept (start : List Condition) (steps : List Step) : Prop where
  tidy : Tidy (run start steps)
  /-- Types stay, in the order they came in. -/
  types : ∀ earlier later, steps = earlier ++ later →
    (run start earlier).map (·.type) <+: (run start steps).map (·.type)
  present : ∀ step ∈ steps, ∀ report ∈ step.reports, report.type ∈ (run start steps).map (·.type)
  times : ∀ condition ∈ run start steps, Since start condition.type steps condition.lastTransition
  told : ∀ condition ∈ run start steps,
    ∃ report, Told start condition.type steps report ∧ condition.SaysSame report
  /-- Marks do not bring both together. -/
  apart : (∀ step ∈ steps, step.Marks) → ¬ (isTrue start ready ∧ isTrue start error) →
    ¬ (isTrue (run start steps) ready ∧ isTrue (run start steps) error)
  concluded : ∀ earlier step, steps = earlier ++ [step] → step.Concludes →
    status? (run start steps) reconciling = some .false ∧
      isTrue (run start steps) ready = !isTrue (run start steps) error

/-- Conditions of different types are kept in order by whatever is done to them. -/
theorem history_kept (tidy : Tidy start) (steps : List Step) : Kept start steps where
  tidy := (run_kept tidy steps).1
  types := by
    rintro earlier later rfl
    rw [run_append]
    exact (run_kept (run_kept tidy earlier).1 later).2
  present _ reports _ reported := run_present tidy reports reported
  times condition there :=
    (run_told tidy steps ((of?_eq_some (run_kept tidy steps).1).mpr ⟨there, rfl⟩)).1
  told condition there :=
    (run_told tidy steps ((of?_eq_some (run_kept tidy steps).1).mpr ⟨there, rfl⟩)).2
  apart marks apart := by
    simp only [isTrue_eq tidy, isTrue_eq (run_kept tidy steps).1, decide_eq_true_eq] at apart ⊢
    exact run_apart marks apart
  concluded := by
    rintro earlier step rfl concludes
    have after := (run_kept tidy (earlier ++ [step])).1
    rw [run_snoc] at after ⊢
    rw [isTrue_eq after, isTrue_eq after]
    rcases status?_concluded concludes (run start earlier) with
      ⟨settled, ⟨isReady, noError⟩ | ⟨notReady, failed⟩⟩
    · exact ⟨settled, by rw [isReady, noError]; rfl⟩
    · exact ⟨settled, by rw [notReady, failed]; rfl⟩

/-- An error that is over, and comes back; and a condition of a type of its own that is set in between. -/
theorem history_kept_relapse :
    let start : List Condition :=
      [⟨"Error", .true, "SecretUnavailable", "no secret", .ofSecond 1, some 1⟩,
        ⟨"Audited", .unknown, "Waiting", "", .ofSecond 2, none⟩]
    let steps : List Step :=
      [.reconciling (.ofSecond 10) (some 2) "converging", .ready (.ofSecond 20) "done",
        .set ⟨"Audited", .unknown, "Waiting", "still", .ofSecond 30, some 2⟩,
        .error (.ofSecond 40) (some 2) "TokenUnavailable" "no token"]
    Tidy start ∧ Kept start steps ∧
      run start steps =
        [⟨"Error", .true, "TokenUnavailable", "no token", .ofSecond 40, some 2⟩,
          ⟨"Audited", .unknown, "Waiting", "still", .ofSecond 2, some 2⟩,
          ⟨"Reconciling", .false, "TokenUnavailable", "no token", .ofSecond 20, none⟩,
          ⟨"Ready", .false, "TokenUnavailable", "no token", .ofSecond 40, none⟩] := by
  intro start steps
  have tidy : Tidy start := by
    unfold Tidy
    decide
  exact ⟨tidy, history_kept tidy steps, by decide⟩

end Condition

end ProxyOperator
