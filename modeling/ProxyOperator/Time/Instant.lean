import ProxyOperator.Time.Calendar
/-!
Instants of Coordinated Universal Time, to the nanosecond. A leap second has the whole second of the
one before it and a fraction that runs on from a billion nanoseconds. The supported years reach from
-262143 to 262142; moving an instant beyond them ends at the bound.
-/
namespace ProxyOperator

namespace Instant

def firstSecond : Int := Date.toDays ⟨-262143, 1, 1⟩ * 86400

def lastSecond : Int := Date.toDays ⟨262142, 12, 31⟩ * 86400 + 86399

def isSupported (second : Int) (nano : Nat) : Bool :=
  firstSecond ≤ second && second ≤ lastSecond &&
    (nano < 1000000000 || (nano < 2000000000 && second % 60 = 59))

end Instant

/-- An instant: seconds since the start of 1970 and nanoseconds in that second. -/
structure Instant where
  second : Int
  nano : Nat
  supported : Instant.isSupported second nano = true
  deriving DecidableEq

namespace Instant

def epoch : Instant := ⟨0, 0, by decide⟩

instance : Inhabited Instant := ⟨epoch⟩

def of? (second : Int) (nano : Nat) : Option Instant :=
  if supported : isSupported second nano = true then some ⟨second, nano, supported⟩ else none

/-- The supported whole second nearest to a number of seconds. -/
def ofSecond (second : Int) : Instant :=
  ⟨max firstSecond (min second lastSecond), 0, by
    have ordered : firstSecond ≤ lastSecond := by decide
    simp only [isSupported, Bool.and_eq_true, Bool.or_eq_true, decide_eq_true_eq]
    refine ⟨⟨?_, ?_⟩, .inl (by decide)⟩ <;> omega⟩

/-- Earlier instants are less; within a second the fraction decides. -/
def before (first second : Instant) : Bool :=
  first.second < second.second || (first.second = second.second && first.nano < second.nano)

instance : LT Instant := ⟨fun first second => first.before second = true⟩

instance : LE Instant := ⟨fun first second => ¬ second < first⟩

instance (first second : Instant) : Decidable (first < second) :=
  inferInstanceAs (Decidable (first.before second = true))

instance (first second : Instant) : Decidable (first ≤ second) :=
  inferInstanceAs (Decidable (¬ second < first))

def toNanos (instant : Instant) : Int := instant.second * 1000000000 + instant.nano

/-- The instant a number of seconds later, or earlier if the number is negative. -/
def shift (instant : Instant) (seconds : Int) : Instant :=
  match of? (instant.second + seconds) instant.nano with
  | some moved => moved
  | none => ofSecond (instant.second + seconds)

def date (instant : Instant) : Date := Date.ofDays (instant.second / 86400)

def secondOfDay (instant : Instant) : Nat := (instant.second % 86400).toNat

/-- The time from an instant that is not in a leap second until another one. Days and times of day are
counted apart, and going back to a leap second in the time of day takes a second more. -/
def nanosUntil (first second : Instant) : Int :=
  let passed := second.toNanos - first.toNanos
  if 1000000000 ≤ second.nano ∧ second.secondOfDay < first.secondOfDay then passed - 1000000000
  else passed

/-! ## Texts -/

def padded (width value : Nat) : String :=
  let digits := (Nat.toDigits 10 value)
  String.ofList (List.replicate (width - digits.length) '0' ++ digits)

/-- A year in four digits; years outside 0 to 9999 carry a sign. -/
def yearText (year : Int) : String :=
  if 0 ≤ year ∧ year ≤ 9999 then padded 4 year.toNat
  else (if year < 0 then "-" else "+") ++ padded 4 year.natAbs

def dateText (date : Date) : String :=
  yearText date.year ++ "-" ++ padded 2 date.month ++ "-" ++ padded 2 date.day

/-- The time of day as `HH:MM:SS`; a leap second is second 60. -/
def timeText (instant : Instant) : String :=
  let second := instant.secondOfDay
  let leap := if instant.nano ≥ 1000000000 then 1 else 0
  padded 2 (second / 3600) ++ ":" ++ padded 2 (second / 60 % 60) ++ ":" ++
    padded 2 (second % 60 + leap)

/-- The fraction of a second in three, six or nine digits, as few as are exact, and nothing for none. -/
def fractionText (instant : Instant) : String :=
  let nano := instant.nano % 1000000000
  if nano = 0 then ""
  else if nano % 1000000 = 0 then "." ++ padded 3 (nano / 1000000)
  else if nano % 1000 = 0 then "." ++ padded 6 (nano / 1000)
  else "." ++ padded 9 nano

def rfc3339 (instant : Instant) : String :=
  dateText instant.date ++ "T" ++ instant.timeText ++ instant.fractionText ++ "Z"

def rfc3339Seconds (instant : Instant) : String :=
  dateText instant.date ++ "T" ++ instant.timeText ++ "Z"

def rfc3339Micros (instant : Instant) : String :=
  dateText instant.date ++ "T" ++ instant.timeText ++ "." ++
    padded 6 (instant.nano % 1000000000 / 1000) ++ "Z"

def display (instant : Instant) : String :=
  dateText instant.date ++ " " ++ instant.timeText ++ instant.fractionText ++ " UTC"

end Instant

end ProxyOperator
