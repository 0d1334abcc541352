import ProxyOperator.Encoding.Utf8
/-!
The form encoding of query strings: letters, digits and `*-._` stand for themselves, a space is
written as a plus sign, and any other byte of the UTF-8 text as a percent sign and two digits.
-/
namespace ProxyOperator

namespace Form

def encodeByte (byte : UInt8) : List Char :=
  let character := Char.ofNat byte.toNat
  if byte.toNat < 128 ∧ (character.isAlphanum ∨ character ∈ ['*', '-', '.', '_']) then [character]
  else if character = ' ' then ['+']
  else ['%', (Nat.digitChar (byte.toNat / 16)).toUpper, (Nat.digitChar (byte.toNat % 16)).toUpper]

def encode (text : String) : String := String.ofList ((Utf8.encode text).flatMap encodeByte)

end Form

end ProxyOperator
