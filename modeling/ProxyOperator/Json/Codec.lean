import ProxyOperator.Json.Printer
import ProxyOperator.Json.Reader
/-!
Writing values as JSON and reading them back. A codec holds both directions; a fault says why a value
is not of the form asked for.
-/
namespace ProxyOperator

inductive Fault where
  | malformed
  /-- A rule of its own turned it down, with these words. -/
  | rejected (reason : String)
  deriving DecidableEq, Repr, Inhabited

def Fault.message : Fault → String
  | .malformed => "malformed value"
  | .rejected reason => reason

/-- A value read from JSON, or the first fault that was met. -/
abbrev Decoded (α : Type) := Except Fault α

theorem Except.bind_eq_ok {ε α β : Type} {result : Except ε α} {next : α → Except ε β} {value : β} :
    (result >>= next) = .ok value ↔ ∃ first, result = .ok first ∧ next first = .ok value := by
  cases result with
  | error failure =>
      constructor
      · intro impossible
        cases impossible
      · rintro ⟨first, impossible, further⟩
        cases impossible
  | ok first =>
      constructor
      · exact fun further => ⟨first, rfl, further⟩
      · rintro ⟨other, same, further⟩
        exact Except.ok.inj same ▸ further

theorem Except.eq_ok_of_toOption {ε α : Type} {result : Except ε α} {value : α}
    (known : result.toOption = some value) : result = .ok value := by
  cases result with
  | error failure => cases known
  | ok other => exact congrArg _ (Option.some.inj known)

namespace Json

/-- Pass over a value: its text must be readable, whatever it says. -/
def skip (value : Json) : Decoded Unit :=
  if value.readable then .ok () else .error .malformed

/-- Take a value whole, in its canonical form. -/
def whole? (value : Json) : Decoded Json :=
  if value.usable then .ok value.normalize else .error .malformed

end Json

structure Codec (α : Type) where
  encode : α → Json
  decode : Json → Decoded α

namespace Codec

variable {α β : Type}

def json : Codec Json := ⟨id, Json.whole?⟩

def string : Codec String where
  encode := .string
  decode
    | .string value => .ok value
    | _ => .error .malformed

def bool : Codec Bool where
  encode := .bool
  decode
    | .bool value => .ok value
    | _ => .error .malformed

def wholeWithin (low high : Int) (toInt : α → Int) (ofInt : Int → α) : Codec α where
  encode value := .whole (toInt value)
  decode
    | .number (.whole value) =>
        if low ≤ value ∧ value ≤ high then .ok (ofInt value) else .error .malformed
    | _ => .error .malformed

def uint16 : Codec UInt16 :=
  wholeWithin 0 65535 (fun value => value.toNat) fun value => UInt16.ofNat value.toNat

def uint32 : Codec UInt32 :=
  wholeWithin 0 4294967295 (fun value => value.toNat) fun value => UInt32.ofNat value.toNat

def int32 : Codec Int32 := wholeWithin (-2147483648) 2147483647 Int32.toInt Int32.ofInt

def int64 : Codec Int64 :=
  wholeWithin (-9223372036854775808) 9223372036854775807 Int64.toInt Int64.ofInt

/-- An array of values of one kind. -/
def list (item : Codec α) : Codec (List α) where
  encode values := .array (values.map item.encode)
  decode
    | .array values => values.mapM item.decode
    | _ => .error .malformed

def nullable (inner : Codec α) : Codec (Option α) where
  encode := Json.ofOption inner.encode
  decode
    | .null => .ok none
    | value => some <$> inner.decode value

/-- The entries of an object whose names are data; of several entries of one name the last one counts. -/
def dictionary (value : Codec α) : Codec (Dictionary α) where
  encode entries := .object (entries.entries.map fun entry => (entry.1, value.encode entry.2))
  decode
    | .object members => do
        let entries ← members.mapM fun entry => do return (entry.1, ← value.decode entry.2)
        return Dictionary.ofList entries
    | _ => .error .malformed

/-- Read and write through another type; a reader may turn values down. -/
def through (inner : Codec β) (write : α → β) (read : β → Decoded α) : Codec α where
  encode value := inner.encode (write value)
  decode value := inner.decode value >>= read

/-- One of several named choices, written as its name. It is also read from an object that holds null
under that name and nothing else. -/
def choice (names : List (String × α)) (nameOf : α → String) : Codec α where
  encode value := .string (nameOf value)
  decode value :=
    let find (name : String) : Decoded α :=
      match names.lookup name with
      | some choice => .ok choice
      | none => .error .malformed
    match value with
    | .string name => find name
    | .object [(name, .null)] => find name
    | _ => .error .malformed

/-- Read a value from the text of a document that holds nothing else. -/
def ofDocument (codec : Codec α) (document : Json.Document) : Decoded α := do
  let value ← codec.decode document.root
  if document.complete then .ok value else .error .malformed

def ofText (codec : Codec α) (text : String) : Decoded α := codec.ofDocument (Json.read text)

end Codec

end ProxyOperator
