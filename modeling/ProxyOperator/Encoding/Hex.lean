/-!
Lower-case hexadecimal texts.
-/
namespace ProxyOperator

namespace Hex

/-- A number in hexadecimal digits, without leading zeros. -/
def ofNat (value : Nat) : String := String.ofList (Nat.toDigits 16 value)

def ofByte (byte : UInt8) : List Char :=
  [Nat.digitChar (byte.toNat / 16), Nat.digitChar (byte.toNat % 16)]

def ofBytes (bytes : List UInt8) : String := String.ofList (bytes.flatMap ofByte)

end Hex

end ProxyOperator
