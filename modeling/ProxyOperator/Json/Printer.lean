import ProxyOperator.Json.Basic
/-!
The compact text of a JSON value: no blanks, members in the order they have, and only those characters
escaped that JSON does not allow inside a string.
-/
namespace ProxyOperator

namespace Json

def hexDigit (value : Nat) : Char := Nat.digitChar (value % 16)

def escapeChar (character : Char) : List Char :=
  match character with
  | '"' => ['\\', '"']
  | '\\' => ['\\', '\\']
  | '\n' => ['\\', 'n']
  | '\r' => ['\\', 'r']
  | '\t' => ['\\', 't']
  | other =>
      if other.toNat = 8 then ['\\', 'b']
      else if other.toNat = 12 then ['\\', 'f']
      else if other.toNat < 32 then
        ['\\', 'u', '0', '0', hexDigit (other.toNat / 16), hexDigit other.toNat]
      else [other]

def quote (text : String) : String :=
  "\"" ++ String.ofList (text.toList.flatMap escapeChar) ++ "\""

mutual
/-- The compact text of a value. A flaw has no text of its own and is written as null. -/
def render : Json → String
  | .null => "null"
  | .bool true => "true"
  | .bool false => "false"
  | .number value => value.render
  | .string value => quote value
  | .array values => "[" ++ renderItems values ++ "]"
  | .object values => "\x7b" ++ renderMembers values ++ "\x7d"
  | .flaw _ => "null"

def renderItems : List Json → String
  | [] => ""
  | [value] => value.render
  | value :: rest => value.render ++ "," ++ renderItems rest

def renderMembers : List (String × Json) → String
  | [] => ""
  | [(name, value)] => quote name ++ ":" ++ value.render
  | (name, value) :: rest => quote name ++ ":" ++ value.render ++ "," ++ renderMembers rest
end

end Json

end ProxyOperator
