import ProxyOperator.Text.Blank
import ProxyOperator.Time.Instant
/-!
Reading instants from texts. There are three forms: RFC 3339 to the letter; the liberal form of it
that resources are read with, which admits blanks, short numbers and signed years; and date and time in
a row, taken as Coordinated Universal Time.
-/
namespace ProxyOperator

namespace Instant

/-- A reader takes characters off the front and gives back the rest. -/
abbrev Scan (α : Type) := StateT (List Char) Option α

namespace Scan

def number (least most : Nat) : Scan Nat := fun characters =>
  let digits := (characters.take most).takeWhile Char.isDigit
  if digits.length < least then none
  else
    some (digits.foldl (fun value digit => value * 10 + (digit.toNat - '0'.toNat)) 0,
      characters.drop digits.length)

def digits : Scan Nat := fun characters => number 1 characters.length characters

def character (expected : Char) : Scan Unit := fun characters =>
  match characters with
  | first :: rest => if first = expected then some ((), rest) else none
  | [] => none

def blanks : Scan Unit := fun characters => some ((), trimStart characters)

def blanksAndColons : Scan Unit := fun characters =>
  some ((), characters.dropWhile fun character => character = ':' || isBlank character)

def dateEnd : Scan Unit := fun characters =>
  match characters with
  | 'T' :: rest | 't' :: rest | ' ' :: rest => some ((), rest)
  | _ => none

/-- The fraction of a second, if there is one, in nanoseconds; digits beyond the ninth are dropped. -/
def fraction : Scan Nat := fun characters =>
  match characters with
  | '.' :: rest =>
      let digits := rest.takeWhile Char.isDigit
      if digits.isEmpty then none
      else
        let kept := digits.take 9
        let value := kept.foldl (fun value digit => value * 10 + (digit.toNat - '0'.toNat)) 0
        some (value * Nat.pow 10 (9 - kept.length), rest.drop digits.length)
  | _ => some (0, characters)

/-- The offset from Coordinated Universal Time in seconds: `Z`, or a sign, two digits for the hours,
what `between` takes, and two digits for the minutes. -/
def offset (between : Scan Unit) : Scan Int := fun characters =>
  let signed (sign : Int) (rest : List Char) : Option (Int × List Char) :=
    (do
      let hours ← number 2 2
      between
      let minutes ← number 2 2
      if minutes > 59 then failure
      return sign * (hours * 3600 + minutes * 60 : Int)).run rest
  match characters with
  | 'Z' :: rest | 'z' :: rest => some (0, rest)
  | '+' :: rest => signed 1 rest
  | '-' :: rest | '−' :: rest => signed (-1) rest
  | _ => none

end Scan

/-- The instant of a date, a time of day and an offset. Second 60 is the leap second after 59. -/
def ofParts? (date : Date) (hour minute second nano : Nat) (offset : Int) : Option Instant :=
  let (second, nano) := if second = 60 then (59, nano + 1000000000) else (second, nano)
  if date.isValid ∧ hour ≤ 23 ∧ minute ≤ 59 ∧ second ≤ 59 ∧ -86400 < offset ∧ offset < 86400 ∧
      -262143 ≤ date.year ∧ date.year ≤ 262142 then
    of? (date.toDays * 86400 + (hour * 3600 + minute * 60 + second : Nat) - offset) nano
  else none

/-- RFC 3339 to the letter. -/
def strict : Scan (Option Instant) := do
  let year ← Scan.number 4 4
  Scan.character '-'
  let month ← Scan.number 2 2
  Scan.character '-'
  let day ← Scan.number 2 2
  Scan.dateEnd
  let hour ← Scan.number 2 2
  Scan.character ':'
  let minute ← Scan.number 2 2
  Scan.character ':'
  let second ← Scan.number 2 2
  let nano ← Scan.fraction
  let offset ← Scan.offset (Scan.character ':')
  return ofParts? ⟨year, month, day⟩ hour minute second nano offset

/-- A year: up to four digits, or a sign and any number of them. -/
def liberalYear : Scan Int := fun characters =>
  match trimStart characters with
  | '-' :: rest => (do return -((← Scan.digits) : Int)).run rest
  | '+' :: rest => (do return ((← Scan.digits) : Int)).run rest
  | rest => (do return ((← Scan.number 1 4) : Int)).run rest

def liberalPair : Scan Nat := do
  Scan.blanks
  Scan.number 1 2

/-- The liberal form of RFC 3339. -/
def liberal : Scan (Option Instant) := do
  let year ← liberalYear
  Scan.blanks
  Scan.character '-'
  let month ← liberalPair
  Scan.blanks
  Scan.character '-'
  let day ← liberalPair
  Scan.dateEnd
  let hour ← liberalPair
  Scan.blanks
  Scan.character ':'
  let minute ← liberalPair
  Scan.blanks
  Scan.character ':'
  let second ← liberalPair
  let nano ← Scan.fraction
  Scan.blanks
  let offset ← liberalOffset
  Scan.blanks
  return ofParts? ⟨year, month, day⟩ hour minute second nano offset
where
  liberalOffset : Scan Int := fun characters =>
    if (characters.take 3).map Char.toUpper = ['U', 'T', 'C'] then some (0, characters.drop 3)
    else Scan.offset Scan.blanksAndColons characters

/-- Date and time in a row: `YYYY-MM-DD HH:MM:SS`, with liberal numbers. -/
def inRow : Scan (Option Instant) := do
  let year ← liberalYear
  Scan.character '-'
  let month ← liberalPair
  Scan.character '-'
  let day ← liberalPair
  Scan.blanks
  let hour ← liberalPair
  Scan.character ':'
  let minute ← liberalPair
  Scan.character ':'
  let second ← liberalPair
  return ofParts? ⟨year, month, day⟩ hour minute second 0 0

def scanAll (scan : Scan (Option Instant)) (text : String) : Option Instant :=
  match scan.run text.toList with
  | some (found, []) => found
  | _ => none

def ofRfc3339? (text : String) : Option Instant := scanAll strict text

def ofText? (text : String) : Option Instant := scanAll liberal text

/-- The instant of a text of the remote server: RFC 3339, or date and time in a row. -/
def ofRemote? (text : String) : Option Instant := ofRfc3339? text <|> scanAll inRow text

end Instant

end ProxyOperator
