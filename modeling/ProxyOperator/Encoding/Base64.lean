/-!
Base64 with the standard alphabet. Written texts are padded to a multiple of four characters. Only such
texts are read, and only if the bits that pad the last byte are zero, so each byte string has one text.
-/
namespace ProxyOperator

namespace Base64

def digit (value : Nat) : Char :=
  if value < 26 then Char.ofNat ('A'.toNat + value)
  else if value < 52 then Char.ofNat ('a'.toNat + (value - 26))
  else if value < 62 then Char.ofNat ('0'.toNat + (value - 52))
  else if value = 62 then '+'
  else '/'

def value? (character : Char) : Option Nat :=
  if character.isUpper then some (character.toNat - 'A'.toNat)
  else if character.isLower then some (character.toNat - 'a'.toNat + 26)
  else if character.isDigit then some (character.toNat - '0'.toNat + 52)
  else if character = '+' then some 62
  else if character = '/' then some 63
  else none

def encodeBytes : List UInt8 → List Char
  | [] => []
  | [first] =>
      let bits := first.toNat
      [digit (bits / 4), digit (bits % 4 * 16), '=', '=']
  | [first, second] =>
      let bits := first.toNat * 256 + second.toNat
      [digit (bits / 1024), digit (bits / 16 % 64), digit (bits % 16 * 4), '=']
  | first :: second :: third :: rest =>
      let bits := first.toNat * 65536 + second.toNat * 256 + third.toNat
      digit (bits / 262144) :: digit (bits / 4096 % 64) :: digit (bits / 64 % 64) ::
        digit (bits % 64) :: encodeBytes rest

def decodeChars : List Char → Option (List UInt8)
  | [] => some []
  | [first, second, '=', '='] => do
      let first ← value? first
      let second ← value? second
      if second % 16 = 0 then return [UInt8.ofNat (first * 4 + second / 16)] else none
  | [first, second, third, '='] => do
      let first ← value? first
      let second ← value? second
      let third ← value? third
      let bits := first * 1024 + second * 16 + third / 4
      if third % 4 = 0 then return [UInt8.ofNat (bits / 256), UInt8.ofNat (bits % 256)] else none
  | first :: second :: third :: fourth :: rest => do
      let first ← value? first
      let second ← value? second
      let third ← value? third
      let fourth ← value? fourth
      let bits := first * 262144 + second * 4096 + third * 64 + fourth
      let others ← decodeChars rest
      return UInt8.ofNat (bits / 65536) :: UInt8.ofNat (bits / 256 % 256) ::
        UInt8.ofNat (bits % 256) :: others
  | _ => none

def encode (bytes : List UInt8) : String := String.ofList (encodeBytes bytes)

def decode? (text : String) : Option (List UInt8) := decodeChars text.toList

end Base64

end ProxyOperator
