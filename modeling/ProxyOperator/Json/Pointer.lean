import ProxyOperator.Json.Basic
/-!
Pointers into JSON values: the names and indices on the way from a value to one inside it, written
with a slash before each. Writing through a pointer makes the objects that are missing on its way.
-/
namespace ProxyOperator

/-- The steps from a value to a value inside it. -/
structure Pointer where
  steps : List String
  deriving DecidableEq, Repr, Inhabited

namespace Pointer

/-- A step as written: `~1` stands for a slash and `~0` for a tilde. -/
def unescape : List Char → List Char
  | '~' :: '1' :: rest => '/' :: unescape rest
  | '~' :: '0' :: rest => '~' :: unescape rest
  | character :: rest => character :: unescape rest
  | [] => []

/-- The pointer a text stands for: empty, or a slash before each step. -/
def ofText? (text : String) : Option Pointer :=
  match (text.splitOn "/") with
  | "" :: steps => some ⟨steps.map fun step => String.ofList (unescape step.toList)⟩
  | _ => none

/-- The place in an array that a step stands for: digits without a leading zero. -/
def index? (step : String) : Option Nat :=
  if step = "0" then some 0
  else if step.toList.all Char.isDigit ∧ ¬ step.isEmpty ∧ ¬ step.startsWith "0" then step.toNat?
  else none

def find? : List String → Json → Option Json
  | [], value => some value
  | step :: rest, value =>
      match value with
      | .object _ => value.get? step >>= find? rest
      | .array values => index? step >>= (values[·]?) >>= find? rest
      | _ => none

/-- Replace the value at the end of the steps by a function of it; a value that is not there counts as
null. The step `-` goes behind the last item of an array. -/
def update (change : Json → Json) : List String → Json → Json
  | [], value => change value
  | step :: rest, value =>
      match value with
      | .object _ | .null =>
          value.put step (update change rest ((value.get? step).getD .null))
      | .array values =>
          if step = "-" then .array (values ++ [update change rest .null])
          else
            match index? step with
            | some index => .array (values.modify index (update change rest))
            | none => value
      | other => other

def erase : List String → Json → Json
  | [], value => value
  | [step], value =>
      match value with
      | .object _ => value.without step
      | .array values =>
          match index? step with
          | some index => .array (values.eraseIdx index)
          | none => value
      | other => other
  | step :: rest, value =>
      match value with
      | .object _ =>
          match value.get? step with
          | some inner => value.put step (erase rest inner)
          | none => value
      | .array values =>
          match index? step with
          | some index => .array (values.modify index (erase rest))
          | none => value
      | other => other

end Pointer

namespace Json

def at? (value : Json) (pointer : Pointer) : Option Json := Pointer.find? pointer.steps value

def setAt (value : Json) (pointer : Pointer) (new : Json) : Json :=
  Pointer.update (fun _ => new) pointer.steps value

def removeAt (value : Json) (pointer : Pointer) : Json := Pointer.erase pointer.steps value

end Json

end ProxyOperator
