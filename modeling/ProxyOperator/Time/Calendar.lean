/-!
The proleptic Gregorian calendar: dates, and the number of days from the first of January 1970 to
them. Four hundred years have 146097 days, a century 36524 and four years 1461, each but for the leap
day that may close it; a day is found by peeling off these spans one after the other.
-/
namespace ProxyOperator

structure Date where
  year : Int
  month : Nat
  day : Nat
  deriving DecidableEq, Repr, Inhabited

namespace Date

/-- Every fourth year, but of the full centuries only every fourth. -/
def isLeap (year : Int) : Bool := year % 4 = 0 && (year % 100 ≠ 0 || year % 400 = 0)

/-- The number of days before each month of a common year, and one more from March on in a leap
year. -/
def daysBeforeMonth (leap : Bool) (month : Nat) : Nat :=
  let common :=
    match month with
    | 0 | 1 => 0
    | 2 => 31
    | 3 => 59
    | 4 => 90
    | 5 => 120
    | 6 => 151
    | 7 => 181
    | 8 => 212
    | 9 => 243
    | 10 => 273
    | 11 => 304
    | 12 => 334
    | _ => 365
  if leap ∧ month > 2 then common + 1 else common

def daysInMonth (leap : Bool) (month : Nat) : Nat :=
  daysBeforeMonth leap (month + 1) - daysBeforeMonth leap month

def isValid (date : Date) : Bool :=
  1 ≤ date.month && date.month ≤ 12 && 1 ≤ date.day &&
    date.day ≤ daysInMonth (isLeap date.year) date.month

/-- The number of days from the first of January of year 1 to that of another year. -/
def daysBeforeYear (year : Int) : Int :=
  let elapsed := year - 1
  365 * elapsed + elapsed / 4 - elapsed / 100 + elapsed / 400

/-- The number of days from the first of January of year 1 to that of 1970. -/
def epoch : Int := 719162

def toDays (date : Date) : Int :=
  daysBeforeYear date.year + daysBeforeMonth (isLeap date.year) date.month + date.day - 1 - epoch

/-- The month of the year that holds a day of the year, counted from zero. -/
def monthOfDay (leap : Bool) (day : Nat) : Nat :=
  (List.range 12).foldl
    (fun month index => if daysBeforeMonth leap (index + 1) ≤ day then index + 1 else month) 1

def ofDays (days : Int) : Date :=
  let total := days + epoch
  let cycle := total / 146097
  let inCycle := (total % 146097).toNat
  let century := min 3 (inCycle / 36524)
  let inCentury := inCycle - 36524 * century
  let quadrennium := inCentury / 1461
  let inQuadrennium := inCentury % 1461
  let single := min 3 (inQuadrennium / 365)
  let dayOfYear := inQuadrennium - 365 * single
  let year := 400 * cycle + 100 * century + 4 * quadrennium + single + 1
  let month := monthOfDay (isLeap year) dayOfYear
  ⟨year, month, dayOfYear - daysBeforeMonth (isLeap year) month + 1⟩

end Date

end ProxyOperator
