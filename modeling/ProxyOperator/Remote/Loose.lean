import ProxyOperator.Json.Record
/-!
The remote server's loose ways of writing flags and ids: flags may be numbers, and no id is written as
zero, null or a text.
-/
namespace ProxyOperator

namespace Codec

/-- A flag: true and false, a number that is zero or not, or null for false. A number that is no whole
number of 64 bits is false. -/
def looseFlag : Codec Bool where
  encode := .bool
  decode value := do
    match ← value.whole? with
    | .bool flag => return flag
    | .number (.whole number) =>
        return number ≠ 0 && -9223372036854775808 ≤ number && number ≤ 9223372036854775807
    | .number _ => return false
    | .null => return false
    | other => throw (.rejected ("expected boolean, got " ++ other.render))

/-- Read an id. A text is a placeholder for an id that is not known yet. -/
def readLooseId (value : Json) : Decoded (Option UInt32) := do
  match ← value.whole? with
  | .number (.whole number) =>
      if number ≤ 0 then return none
      else if number ≤ 4294967295 then return some (UInt32.ofNat number.toNat)
      else throw (.rejected ("id " ++ toString number ++ " out of range"))
  | .number _ => return none
  | .null => return none
  | .string _ => return none
  | other => throw (.rejected ("expected id, got " ++ other.render))

/-- An id, written as null if there is none. -/
def looseId : Codec (Option UInt32) := ⟨(nullable uint32).encode, readLooseId⟩

/-- An id, written as zero if there is none. -/
def idOrZero : Codec (Option UInt32) := ⟨fun id => uint32.encode (id.getD 0), readLooseId⟩

end Codec

end ProxyOperator
