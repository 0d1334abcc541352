import ProxyOperator.Time.Instant
/-!
The calendar, forth and back: the date of a day is a date of the calendar, and to count its days leads to that
day again.
-/
namespace ProxyOperator

namespace Date

/-- The number of days of a year. -/
def yearLength (leap : Bool) : Nat := if leap then 366 else 365

/-- A month holds a day of the year: it is the month of that day. -/
theorem monthOfDay_holds : ∀ leap : Bool, ∀ day < yearLength leap,
    1 ≤ monthOfDay leap day ∧ monthOfDay leap day ≤ 12 ∧
      daysBeforeMonth leap (monthOfDay leap day) ≤ day ∧
      day < daysBeforeMonth leap (monthOfDay leap day + 1) := by
  decide +kernel

/-- A day of a year is a date of the calendar. -/
theorem isValid_ofDayOfYear {year : Int} {day : Nat} (within : day < yearLength (isLeap year)) :
    isValid ⟨year, monthOfDay (isLeap year) day,
      day - daysBeforeMonth (isLeap year) (monthOfDay (isLeap year) day) + 1⟩ = true := by
  have ⟨first, last, before, after⟩ := monthOfDay_holds _ day within
  simp only [isValid, daysInMonth, Bool.and_eq_true, decide_eq_true_eq]
  refine ⟨⟨⟨first, last⟩, Nat.le_add_left 1 _⟩, decide_eq_true ?_⟩
  omega

theorem daysInMonth_le : ∀ leap : Bool, ∀ month ≤ 12, daysInMonth leap month ≤ 31 := by
  decide

/-- The month and the day of a date of the calendar have two digits. -/
theorem isValid_fits {date : Date} (valid : date.isValid = true) :
    date.month < 100 ∧ date.day < 100 := by
  simp only [isValid, Bool.and_eq_true, decide_eq_true_eq] at valid
  have ⟨⟨⟨_, last⟩, _⟩, within⟩ := valid
  have short := daysInMonth_le (isLeap date.year) date.month last
  omega

/-! ## Years -/

/-- Where a day is: in a year, so many days after its first. -/
structure Falls (total : Int) (year : Int) (day : Nat) : Prop where
  total : total = daysBeforeYear year + day
  within : day < yearLength (isLeap year)

/-- The spans of years are peeled off so that less than a span of each sort is left; only the last day of a
leap year is left over, as the last day of its fourth year. -/
theorem ofDays_eq (days : Int) : ∃ year day, Falls (days + epoch) year day ∧
    ofDays days = ⟨year, monthOfDay (isLeap year) day,
      day - daysBeforeMonth (isLeap year) (monthOfDay (isLeap year) day) + 1⟩ := by
  let total := days + epoch
  let cycle := total / 146097
  let inCycle := (total % 146097).toNat
  let century := min 3 (inCycle / 36524)
  let inCentury := inCycle - 36524 * century
  let quadrennium := inCentury / 1461
  let inQuadrennium := inCentury % 1461
  let single := min 3 (inQuadrennium / 365)
  let day := inQuadrennium - 365 * single
  have cycles : total = 146097 * cycle + inCycle ∧ inCycle < 146097 := by
    change total = 146097 * (total / 146097) + (total % 146097).toNat ∧
      (total % 146097).toNat < 146097
    omega
  have centuries : inCycle = 36524 * century + inCentury ∧ century ≤ 3 ∧
      (inCentury < 36524 ∨ century = 3 ∧ inCentury = 36524) := by
    change inCycle = 36524 * min 3 (inCycle / 36524) + (inCycle - 36524 * min 3 (inCycle / 36524)) ∧
      _ ∧ (inCycle - 36524 * min 3 (inCycle / 36524) < 36524 ∨ _)
    omega
  have quadrennia : inCentury = 1461 * quadrennium + inQuadrennium ∧ quadrennium ≤ 24 ∧
      inQuadrennium < 1461 := by
    change inCentury = 1461 * (inCentury / 1461) + inCentury % 1461 ∧ inCentury / 1461 ≤ 24 ∧
      inCentury % 1461 < 1461
    omega
  have singles : inQuadrennium = 365 * single + day ∧ single ≤ 3 ∧
      (day < 365 ∨ single = 3 ∧ day = 365) := by
    change inQuadrennium = 365 * min 3 (inQuadrennium / 365) +
        (inQuadrennium - 365 * min 3 (inQuadrennium / 365)) ∧
      _ ∧ (inQuadrennium - 365 * min 3 (inQuadrennium / 365) < 365 ∨ _)
    omega
  have same : ofDays days =
      ⟨400 * cycle + 100 * century + 4 * quadrennium + single + 1,
        monthOfDay (isLeap (400 * cycle + 100 * century + 4 * quadrennium + single + 1)) day,
        day - daysBeforeMonth (isLeap (400 * cycle + 100 * century + 4 * quadrennium + single + 1))
          (monthOfDay (isLeap (400 * cycle + 100 * century + 4 * quadrennium + single + 1)) day) + 1⟩ :=
    rfl
  clear_value inCycle century inCentury quadrennium inQuadrennium single day cycle
  refine ⟨400 * cycle + 100 * century + 4 * quadrennium + single + 1, day, ⟨?_, ?_⟩, same⟩
  · have elapsed : 400 * cycle + 100 * century + 4 * quadrennium + single + 1 - 1 =
        400 * cycle + 100 * century + 4 * quadrennium + single := by omega
    have fourths : (400 * cycle + 100 * century + 4 * quadrennium + single) / 4 =
        100 * cycle + 25 * century + quadrennium := by omega
    have centuryCount : (400 * cycle + 100 * century + 4 * quadrennium + single) / 100 =
        4 * cycle + century := by omega
    have cycleCount : (400 * cycle + 100 * century + 4 * quadrennium + single) / 400 = cycle := by
      omega
    change total = _
    unfold daysBeforeYear
    dsimp only
    rw [elapsed, fourths, centuryCount, cycleCount]
    omega
  · unfold yearLength isLeap
    split
    · omega
    · next common =>
      simp only [Bool.and_eq_true, decide_eq_true_eq, Bool.or_eq_true, not_and] at common
      omega

/-- To count the days of the date of a day leads to that day. -/
theorem toDays_ofDays (days : Int) : (ofDays days).toDays = days := by
  rcases ofDays_eq days with ⟨year, day, falls, same⟩
  have ⟨_, _, before, _⟩ := monthOfDay_holds _ day falls.within
  have total := falls.total
  rw [same]
  unfold toDays
  dsimp only
  omega

theorem isValid_ofDays (days : Int) : (ofDays days).isValid = true := by
  rcases ofDays_eq days with ⟨year, day, falls, same⟩
  rw [same]
  exact isValid_ofDayOfYear falls.within

theorem daysBeforeYear_succ (year : Int) :
    daysBeforeYear (year + 1) = daysBeforeYear year + yearLength (isLeap year) := by
  unfold daysBeforeYear yearLength isLeap
  simp only [Bool.and_eq_true, Bool.or_eq_true, decide_eq_true_eq]
  split <;> omega

theorem daysBeforeYear_mono {first last : Int} (order : first ≤ last) :
    daysBeforeYear first ≤ daysBeforeYear last := by
  unfold daysBeforeYear
  dsimp only
  omega

/-- Later days are not in earlier years. -/
theorem Falls.year_mono {first last firstYear lastYear : Int} {firstDay lastDay : Nat}
    (earlier : Falls first firstYear firstDay) (later : Falls last lastYear lastDay)
    (order : first ≤ last) : firstYear ≤ lastYear := by
  by_cases before : firstYear ≤ lastYear
  · exact before
  · have next := daysBeforeYear_succ lastYear
    have mono : daysBeforeYear (lastYear + 1) ≤ daysBeforeYear firstYear :=
      daysBeforeYear_mono (by omega)
    have ⟨firstTotal, _⟩ := earlier
    have ⟨lastTotal, within⟩ := later
    omega

/-- The dates of days that are no earlier than a New Year's Day and no later than a New Year's Eve are in
the years from the one to the other. -/
theorem ofDays_year {days low high : Int} (after : toDays ⟨low, 1, 1⟩ ≤ days)
    (before : days ≤ toDays ⟨high, 12, 31⟩) :
    low ≤ (ofDays days).year ∧ (ofDays days).year ≤ high := by
  rcases ofDays_eq days with ⟨year, day, falls, same⟩
  rw [same]
  have newYear : Falls (daysBeforeYear low) low 0 := by
    refine ⟨(Int.add_zero _).symm, ?_⟩
    unfold yearLength
    split <;> decide
  have eve : Falls (toDays ⟨high, 12, 31⟩ + epoch) high (yearLength (isLeap high) - 1) := by
    cases leap : isLeap high with
    | false =>
        refine ⟨?_, by rw [leap]; decide⟩
        simp [toDays, leap, daysBeforeMonth, yearLength]
        omega
    | true =>
        refine ⟨?_, by rw [leap]; decide⟩
        simp [toDays, leap, daysBeforeMonth, yearLength]
        omega
  constructor
  · apply newYear.year_mono falls
    unfold toDays daysBeforeMonth at after
    simp at after
    omega
  · apply falls.year_mono eve
    omega

end Date

end ProxyOperator
