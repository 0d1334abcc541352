import ProxyOperator.Resource.Basic
/-!
What conditions tell. A condition that is set takes the place of the one of its type, so as long as there is
one condition of each type at most, the last that was set of a type is all that is told of it.
-/
namespace ProxyOperator

namespace Condition

variable {conditions : List Condition} {condition : Condition} {type : String}
  {status : ConditionStatus} {generation : Option Int64}

/-- There is at most one condition of each type. -/
def Tidy (conditions : List Condition) : Prop := (conditions.map (·.type)).Nodup

/-- A condition of a type has a status and was recorded against a generation. -/
def tells (conditions : List Condition) (type : String) (status : ConditionStatus)
    (generation : Option Int64) : Bool :=
  conditions.any fun condition =>
    condition.type = type && condition.status = status && condition.generation = generation

theorem types_set (conditions : List Condition) (condition : Condition) :
    (set conditions condition).map (·.type) =
      if condition.type ∈ conditions.map (·.type) then conditions.map (·.type)
      else conditions.map (·.type) ++ [condition.type] := by
  induction conditions with
  | nil => rfl
  | cons old rest induction =>
      unfold set
      split
      · next same => split <;> simp [same]
      · next different =>
        have unequal : condition.type ≠ old.type := fun same => different same.symm
        simp only [List.map_cons, induction, List.mem_cons, unequal, false_or]
        split <;> rfl

theorem Tidy.set (tidy : Tidy conditions) : Tidy (set conditions condition) := by
  unfold Tidy
  rw [types_set]
  split
  · exact tidy
  · next fresh =>
    refine List.nodup_append.mpr ⟨tidy, List.pairwise_singleton _ _, fun type inside other new => ?_⟩
    rcases List.mem_singleton.mp new with rfl
    exact fun same => fresh (same ▸ inside)

theorem tells_eq_false (absent : type ∉ conditions.map (·.type)) :
    tells conditions type status generation = false := by
  refine List.any_eq_false.mpr fun condition inside holds => ?_
  simp only [Bool.and_eq_true, decide_eq_true_eq] at holds
  exact absent (List.mem_map.mpr ⟨condition, inside, holds.1.1⟩)

/-- Of the type that was set, only what was set is told. -/
theorem tells_set_self (tidy : Tidy conditions) :
    tells (set conditions condition) condition.type status generation =
      (condition.status = status && condition.generation = generation) := by
  induction conditions with
  | nil => simp [set, tells]
  | cons old rest induction =>
      rcases List.nodup_cons.mp tidy with ⟨absent, restTidy⟩
      unfold set
      split
      · next same =>
        have others : tells rest condition.type status generation = false :=
          tells_eq_false (same ▸ absent)
        unfold tells at others ⊢
        rw [List.any_cons, others]
        split <;> simp
      · next different =>
        have further := induction restTidy
        unfold tells at further ⊢
        rw [List.any_cons, further]
        simp [different]

/-- What is set of one type says nothing about another. -/
theorem tells_set_other (other : condition.type ≠ type) :
    tells (set conditions condition) type status generation =
      tells conditions type status generation := by
  induction conditions with
  | nil => simp [set, tells, other]
  | cons old rest induction =>
      unfold set
      split
      · next same => split <;> simp [tells, other, same]
      · simp only [tells, List.any_cons] at induction ⊢
        rw [induction]

/-! ## What passes set -/

theorem shouldMarkReconciling_eq_false (observed generation : Option Int64) :
    shouldMarkReconciling conditions observed generation = false ↔
      observed = generation ∨ tells conditions reconciling .true generation = true ∨
        tells conditions error .true generation = true := by
  unfold shouldMarkReconciling tells
  split
  · next same => exact ⟨fun _ => .inl same, fun _ => rfl⟩
  · next different =>
    rw [Bool.not_eq_false', List.any_eq_true, List.any_eq_true, List.any_eq_true]
    simp only [different, false_or, Bool.and_eq_true, Bool.or_eq_true, decide_eq_true_eq]
    constructor
    · rintro ⟨condition, inside, ⟨begun | failed, holds⟩, recorded⟩
      · exact .inl ⟨condition, inside, ⟨begun, holds⟩, recorded⟩
      · exact .inr ⟨condition, inside, ⟨failed, holds⟩, recorded⟩
    · rintro (⟨condition, inside, ⟨begun, holds⟩, recorded⟩ |
        ⟨condition, inside, ⟨failed, holds⟩, recorded⟩)
      · exact ⟨condition, inside, ⟨.inl begun, holds⟩, recorded⟩
      · exact ⟨condition, inside, ⟨.inr failed, holds⟩, recorded⟩

variable {now : Instant} {message reason : String}

theorem tells_markReconciling (tidy : Tidy conditions) (other : Option Int64) :
    tells (markReconciling now generation message conditions) reconciling .true other =
      decide (generation = other) := by
  unfold markReconciling
  exact (tells_set_self tidy).trans (Bool.true_and _)

/-- After a success no pass is under way. -/
theorem tells_markReady (tidy : Tidy conditions) :
    tells (markReady now message conditions) reconciling .true generation = false := by
  unfold markReady
  dsimp only
  rw [tells_set_other (by decide : error ≠ reconciling)]
  exact tells_set_self tidy.set

/-- After a failure no pass is under way. -/
theorem tells_markError (tidy : Tidy conditions) (other : Option Int64) :
    tells (markError now generation reason message conditions) reconciling .true other = false :=
  tells_set_self tidy.set.set

theorem tells_markError_error (tidy : Tidy conditions) :
    tells (markError now generation reason message conditions) error .true generation = true := by
  unfold markError
  dsimp only
  rw [tells_set_other (by decide : reconciling ≠ error),
    tells_set_other (by decide : ready ≠ error)]
  refine (tells_set_self tidy).trans ?_
  simp

end Condition

theorem Kind.conditions_mapConditions (kind : Kind) (change : List Condition → List Condition)
    (status : kind.Status) :
    kind.conditions (kind.mapConditions change status) = change (kind.conditions status) := by
  cases kind <;> rfl

end ProxyOperator
