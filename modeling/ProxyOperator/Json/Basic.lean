import ProxyOperator.Json.Number
import ProxyOperator.Text.Dictionary
/-!
JSON values. Members of an object keep the order and the repetitions they were written with; readers
of records decide what a repetition means. A value that came from a faulty text carries the fault at
the place where it was met, so that whoever walks the value meets faults in the order of the text.
-/
namespace ProxyOperator

inductive Flaw where
  /-- The text is no JSON from here on. -/
  | unreadable
  /-- The token has a clear end but stands for no value: a number beyond every floating-point number, a
  half of a surrogate pair, a container nested too deep. It does no harm where it is passed over. -/
  | unusable
  deriving DecidableEq, Repr, Inhabited

inductive Json where
  | null
  | bool (value : Bool)
  | number (value : Number)
  | string (value : String)
  | array (items : List Json)
  | object (members : List (String × Json))
  | flaw (flaw : Flaw)
  deriving Repr, Inhabited

namespace Json

def whole (value : Int) : Json := .number (.whole value)

def natural (value : Nat) : Json := whole value

def strings (values : List String) : Json := .array (values.map .string)

def ofOption {α : Type} (write : α → Json) : Option α → Json
  | none => .null
  | some value => write value

def get? (name : String) : Json → Option Json
  | .object members => members.lookup name
  | _ => none

/-- Replace the first member of a name, or add it at the end. -/
def putMember (name : String) (value : Json) : List (String × Json) → List (String × Json)
  | [] => [(name, value)]
  | (other, old) :: rest =>
      if other = name then (name, value) :: rest else (other, old) :: putMember name value rest

/-- Put a member into an object; null counts as an object without members, and any other value stays
as it is. -/
def put (object : Json) (name : String) (value : Json) : Json :=
  match object with
  | .object members => .object (putMember name value members)
  | .null => .object [(name, value)]
  | other => other

def without (name : String) : Json → Json
  | .object members => .object (members.filter fun entry => entry.1 ≠ name)
  | other => other

def isNull : Json → Bool
  | .null => true
  | _ => false

def text? : Json → Option String
  | .string value => some value
  | _ => none

/-- The items of an array value, none for other values. -/
def items : Json → List Json
  | .array values => values
  | _ => []

def members : Json → List (String × Json)
  | .object values => values
  | _ => []

/-! Whether a value, or any value inside it, is flawed. -/

mutual
def readable : Json → Bool
  | .flaw .unreadable => false
  | .array values => readableItems values
  | .object values => readableMembers values
  | _ => true

def readableItems : List Json → Bool
  | [] => true
  | value :: rest => value.readable && readableItems rest

def readableMembers : List (String × Json) → Bool
  | [] => true
  | (_, value) :: rest => value.readable && readableMembers rest
end

mutual
/-- Whether the value and all inside it are free of flaws. -/
def usable : Json → Bool
  | .flaw _ => false
  | .array values => usableItems values
  | .object values => usableMembers values
  | _ => true

def usableItems : List Json → Bool
  | [] => true
  | value :: rest => value.usable && usableItems rest

def usableMembers : List (String × Json) → Bool
  | [] => true
  | (_, value) :: rest => value.usable && usableMembers rest
end

/-! A canonical form: members sorted by name, the last of several members of one name. -/

mutual
def normalize : Json → Json
  | .array values => .array (normalizeItems values)
  | .object values =>
      .object (Dictionary.ofList (normalizeMembers values)).entries
  | value => value

def normalizeItems : List Json → List Json
  | [] => []
  | value :: rest => value.normalize :: normalizeItems rest

def normalizeMembers : List (String × Json) → List (String × Json)
  | [] => []
  | (name, value) :: rest => (name, value.normalize) :: normalizeMembers rest
end

end Json

end ProxyOperator
