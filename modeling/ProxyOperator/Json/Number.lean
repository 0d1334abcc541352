/-!
JSON numbers. A whole number that fits into 64 bits, signed or unsigned, keeps its exact value. Every
other number stands for the binary floating-point number it is read as, in two rounded steps: its
leading digits first, then their product with the power of ten. It is written with the fewest decimal
digits whose nearest floating-point number is that same number.
-/
namespace ProxyOperator

/-- A decimal fraction as it was written: the digits times a power of ten, with a sign of its own so
that minus zero is kept apart from zero. -/
structure Decimal where
  negative : Bool
  digits : Nat
  exponent : Int
  deriving DecidableEq, Repr, Inhabited

namespace Decimal

/-- The number of decimal digits of a natural number; zero has one. -/
def digitCount (value : Nat) : Nat := (Nat.toDigits 10 value).length

/-- The positive fraction `numerator / denominator` equal to `digits * 10 ^ exponent`. -/
def ratio (digits : Nat) (exponent : Int) : Nat × Nat :=
  if exponent ≥ 0 then (digits * Nat.pow 10 exponent.toNat, 1)
  else (digits, Nat.pow 10 (-exponent).toNat)

/-- The leading digits that fit into 64 bits, and the power of ten they stand before. The digits after
them count as zeros. -/
def leading (value : Decimal) : Nat × Int :=
  let surplus := digitCount value.digits - 20
  let head := value.digits / Nat.pow 10 surplus
  if head < Nat.pow 2 64 then (head, value.exponent + surplus)
  else (head / 10, value.exponent + surplus + 1)

end Decimal

structure Binary where
  significand : Nat
  power : Int
  deriving DecidableEq, Repr, Inhabited

namespace Binary

/-- Quotient rounded to the nearest natural number, a half going to the even neighbour. -/
def roundedQuotient (numerator denominator : Nat) : Nat :=
  let quotient := numerator / denominator
  let rest := numerator % denominator
  if 2 * rest < denominator then quotient
  else if 2 * rest > denominator then quotient + 1
  else if quotient % 2 = 0 then quotient else quotient + 1

/-- Scale a fraction by `2 ^ (-power)`. -/
def scaled (numerator denominator : Nat) (power : Int) : Nat × Nat :=
  if power ≥ 0 then (numerator, denominator * Nat.pow 2 power.toNat)
  else (numerator * Nat.pow 2 (-power).toNat, denominator)

/-- The floating-point number nearest to a positive fraction: 53 significant bits, fewer below
`2 ^ (-1022)`. -/
def nearest (numerator denominator : Nat) : Binary :=
  let estimate : Int := (Nat.log2 numerator : Int) - (Nat.log2 denominator : Int)
  let (above, below) := scaled numerator denominator estimate
  let order : Int := if above < below then estimate - 1 else estimate
  let power : Int := max (order - 52) (-1074)
  let (above, below) := scaled numerator denominator power
  let significand := roundedQuotient above below
  if significand = Nat.pow 2 53 then ⟨Nat.pow 2 52, power + 1⟩ else ⟨significand, power⟩

def fraction (value : Binary) : Nat × Nat :=
  if value.power ≥ 0 then (value.significand * Nat.pow 2 value.power.toNat, 1)
  else (value.significand, Nat.pow 2 (-value.power).toNat)

def times (left right : Binary) : Binary :=
  nearest (left.fraction.1 * right.fraction.1) (left.fraction.2 * right.fraction.2)

def dividedBy (left right : Binary) : Binary :=
  nearest (left.fraction.1 * right.fraction.2) (left.fraction.2 * right.fraction.1)

def powerOfTen (exponent : Nat) : Binary := nearest (Nat.pow 10 exponent) 1

def exceeds (value : Binary) : Bool := decide (value.power > 971)

/-- Whether `digits * 10 ^ exponent` has this number for its nearest, and how far from it (as a
fraction over a common denominator) it lies. -/
def distance? (value : Binary) (digits : Nat) (exponent : Int) : Option Nat :=
  if digits = 0 then none
  else
    let (numerator, denominator) := Decimal.ratio digits exponent
    if nearest numerator denominator = value then
      let (own, unit) := value.fraction
      some (((numerator * unit : Nat) - (own * denominator : Nat) : Int).natAbs)
    else none

/-- Strip zeros off the end of the digits. The fuel bounds the number of digits. -/
def withoutTrailingZeros : Nat → Nat → Int → Nat × Int
  | 0, digits, exponent => (digits, exponent)
  | fuel + 1, digits, exponent =>
      if digits ≠ 0 ∧ digits % 10 = 0 then withoutTrailingZeros fuel (digits / 10) (exponent + 1)
      else (digits, exponent)

/-- The decimal with the fewest digits whose nearest floating-point number this is; of two such, the
nearer one. Each count of digits from one to seventeen is tried with the two neighbours of the value on
that grid. -/
def shortest (value : Binary) : Nat × Int :=
  let (numerator, denominator) := value.fraction
  let quotient := numerator / denominator
  let order : Int :=
    if quotient > 0 then (Decimal.digitCount quotient : Int)
    else
      -- below one: the first nonzero decimal place
      1 - (Decimal.digitCount (denominator / numerator) : Int)
  let attempt (count : Nat) : Option (Nat × Int) :=
    let exponent : Int := order - count
    let (above, below) :=
      if exponent ≥ 0 then (numerator, denominator * Nat.pow 10 exponent.toNat)
      else (numerator * Nat.pow 10 (-exponent).toNat, denominator)
    let low := above / below
    match value.distance? low exponent, value.distance? (low + 1) exponent with
    | some first, some second =>
        if first < second ∨ (first = second ∧ low % 2 = 0) then some (low, exponent)
        else some (low + 1, exponent)
    | some _, none => some (low, exponent)
    | none, some _ => some (low + 1, exponent)
    | none, none => none
  match (List.range 17).findSome? fun index => attempt (index + 1) with
  | some (digits, exponent) => withoutTrailingZeros 20 digits exponent
  | none => (quotient, 0)

end Binary

namespace Decimal

def zeros (count : Nat) : String := String.ofList (List.replicate count '0')

/-- Lay out shortest digits: positional from `0.00001` up to sixteen whole digits, with an exponent
elsewhere. -/
def layOut (digits : Nat) (exponent : Int) : String :=
  let text := toString digits
  let length : Int := text.length
  let point := length + exponent
  if 0 ≤ exponent ∧ point ≤ 16 then text ++ zeros exponent.toNat ++ ".0"
  else if 0 < point ∧ point ≤ 16 then
    String.ofList (text.toList.take point.toNat) ++ "." ++ String.ofList (text.toList.drop point.toNat)
  else if -5 < point ∧ point ≤ 0 then "0." ++ zeros (-point).toNat ++ text
  else
    let first := String.ofList (text.toList.take 1)
    let rest := String.ofList (text.toList.drop 1)
    let mantissa := if rest.isEmpty then first else first ++ "." ++ rest
    mantissa ++ "e" ++ toString (point - 1)

/-- The floating-point number that the digits stand for before a power of ten, if it is finite. A power
of ten that is no floating-point number itself is divided by in two steps. -/
def scaled? (digits : Nat) (exponent : Int) : Option Binary :=
  let start := Binary.nearest digits 1
  if digits = 0 ∨ exponent < -616 then some ⟨0, 0⟩
  else if exponent < -308 then
    some ((start.dividedBy (.powerOfTen 308)).dividedBy (.powerOfTen (-exponent - 308).toNat))
  else if exponent < 0 then some (start.dividedBy (.powerOfTen (-exponent).toNat))
  else if exponent ≤ 308 then
    let product := start.times (.powerOfTen exponent.toNat)
    if product.exceeds then none else some product
  else none

/-- The magnitude of the floating-point number a decimal is read as, if it is finite. -/
def binary? (value : Decimal) : Option Binary :=
  scaled? value.leading.1 value.leading.2

def overflows (value : Decimal) : Bool := value.binary?.isNone

/-- The text of the floating-point number a decimal is read as; of a number too large, that of
nothing. -/
def render (value : Decimal) : String :=
  let sign := if value.negative then "-" else ""
  match value.binary? with
  | none => "null"
  | some binary =>
      if binary.significand = 0 then sign ++ "0.0"
      else
        let (digits, exponent) := binary.shortest
        sign ++ layOut digits exponent

end Decimal

inductive Number where
  /-- A whole number of at most 64 bits. -/
  | whole (value : Int)
  | decimal (value : Decimal)
  deriving DecidableEq, Repr, Inhabited

namespace Number

/-- The number a decimal text without fraction and exponent stands for. Minus zero and numbers of more
than 64 bits are no whole numbers. -/
def ofDigits (negative : Bool) (digits : Nat) : Number :=
  if negative then
    if digits = 0 ∨ digits > Nat.pow 2 63 then .decimal ⟨true, digits, 0⟩ else .whole (-digits)
  else if digits < Nat.pow 2 64 then .whole digits
  else .decimal ⟨false, digits, 0⟩

def render : Number → String
  | .whole value => toString value
  | .decimal value => value.render

end Number

end ProxyOperator
