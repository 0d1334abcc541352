import ProxyOperator.Json.Basic
import ProxyOperator.Json.Token
/-!
Reading a JSON text. Every text is read to a document; what is wrong with it is found inside the
document as a flaw, at the place where the text went wrong, after all that came before it.
-/
namespace ProxyOperator

namespace Json

structure Document where
  root : Json
  complete : Bool
  deriving Repr, Inhabited

/-- A container whose end has not been read: its items so far, the last one first. -/
inductive Frame where
  | array (reversed : List Json)
  | object (reversed : List (String × Json)) (name : String) (sound : Bool)
  deriving Repr

inductive Expectation where
  | value
  | firstItem
  | name
  | firstName
  | colon
  | separator
  | nothing
  deriving DecidableEq, Repr

/-- A document being put together. -/
structure Builder where
  frames : List Frame
  expectation : Expectation
  root : Option Json
  broken : Bool
  surplus : Bool
  deriving Repr

namespace Builder

def start : Builder := ⟨[], .value, none, false, false⟩

/-- Containers nested deeper than this are not usable. -/
def depthLimit : Nat := 127

def add (builder : Builder) (value : Json) : Builder :=
  match builder.frames with
  | [] => { builder with root := some value, expectation := .nothing }
  | .array items :: rest =>
      { builder with frames := .array (value :: items) :: rest, expectation := .separator }
  | .object members name sound :: rest =>
      { builder with
        frames := .object ((name, value) :: members) name sound :: rest
        expectation := .separator }

/-- The value of the text so far when it goes wrong inside these containers. -/
def cutShort (value : Json) : List Frame → Json
  | [] => value
  | .array items :: rest => cutShort (.array (value :: items).reverse) rest
  | .object members name sound :: rest =>
      if sound then cutShort (.object ((name, value) :: members).reverse) rest
      else cutShort (.flaw .unreadable) rest

/-- A flaw that is no member's value stands under the empty name, which no record knows. -/
def unnamed : List Frame → List Frame
  | .object members _ sound :: rest => .object members "" sound :: rest
  | frames => frames

/-- The text goes wrong here. -/
def fail (builder : Builder) : Builder :=
  let frames := if builder.expectation = .value then builder.frames else unnamed builder.frames
  { builder with root := some (cutShort (.flaw .unreadable) frames), broken := true }

def close (builder : Builder) : Builder :=
  let deep := builder.frames.length > depthLimit
  match builder.frames with
  | [] => builder.fail
  | .array items :: rest =>
      let value : Json := if deep then .flaw .unusable else .array items.reverse
      { builder with frames := rest }.add value
  | .object members _ sound :: rest =>
      let value : Json := if deep ∨ ¬ sound then .flaw .unusable else .object members.reverse
      { builder with frames := rest }.add value

def enter (builder : Builder) (frame : Frame) (expectation : Expectation) : Builder :=
  { builder with frames := frame :: builder.frames, expectation := expectation }

def value (builder : Builder) : Token → Builder
  | .openArray => builder.enter (.array []) .firstItem
  | .openObject => builder.enter (.object [] "" true) .firstName
  | .null => builder.add .null
  | .bool flag => builder.add (.bool flag)
  | .number amount => builder.add (.number amount)
  | .string text => builder.add (.string text)
  | .hugeNumber | .brokenString => builder.add (.flaw .unusable)
  | _ => builder.fail

def memberName (builder : Builder) (token : Token) : Builder :=
  match builder.frames, token with
  | .object members _ sound :: rest, .string text =>
      { builder with frames := .object members text sound :: rest, expectation := .colon }
  | .object members name _ :: rest, .brokenString =>
      { builder with frames := .object members name false :: rest, expectation := .colon }
  | _, _ => builder.fail

def step (builder : Builder) (token : Token) : Builder :=
  if builder.broken then builder
  else
    match builder.expectation with
    | .value => builder.value token
    | .firstItem => if token = .closeArray then builder.close else builder.value token
    | .name => builder.memberName token
    | .firstName => if token = .closeObject then builder.close else builder.memberName token
    | .colon => if token = .colon then { builder with expectation := .value } else builder.fail
    | .separator =>
        match builder.frames, token with
        | .array _ :: _, .comma => { builder with expectation := .value }
        | .array _ :: _, .closeArray => builder.close
        | .object .. :: _, .comma => { builder with expectation := .name }
        | .object .. :: _, .closeObject => builder.close
        | _, _ => builder.fail
    | .nothing => { builder with surplus := true }

def finish (builder : Builder) : Document :=
  let ended := if builder.root.isNone then builder.fail else builder
  ⟨ended.root.getD .null, !ended.broken && !ended.surplus⟩

end Builder

def read (text : String) : Document := ((tokens text).foldl Builder.step Builder.start).finish

def ofText? (text : String) : Option Json :=
  let document := read text
  if document.complete ∧ document.root.usable then some document.root else none

end Json

end ProxyOperator
