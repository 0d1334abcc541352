import ProxyOperator.Json.Record
/-!
Schemas of the records that people write and read in the cluster. A schema says of each member what it
is for, whether it must be there, and what values it takes.
-/
namespace ProxyOperator

inductive Presence where
  | required
  /-- Absence and null stand for no value. -/
  | nullable
  /-- Absence stands for the empty list. -/
  | omittable
  | defaulted (default : Json)
  deriving Repr, Inhabited

structure Member (σ : Type) where
  name : String
  about : String
  presence : Presence
  schema : σ
  deriving Inhabited

inductive Schema where
  | text
  | instant
  | flag
  | unsigned (bits : Nat)
  | signed (bits : Nat)
  | choice (words : List String)
  | list (item : Schema)
  | record (about : String) (members : List (Member Schema))

instance : Inhabited Schema := ⟨.text⟩

namespace Member

/-- A member that must be there. -/
def required (name about : String) (schema : Schema) : Member Schema :=
  ⟨name, about, .required, schema⟩

def optional (name about : String) (schema : Schema) : Member Schema :=
  ⟨name, about, .nullable, schema⟩

def listed (name about : String) (item : Schema) : Member Schema :=
  ⟨name, about, .omittable, .list item⟩

def defaulted (name about : String) (schema : Schema) (default : Json) : Member Schema :=
  ⟨name, about, .defaulted default, schema⟩

/-- A flag that is off unless it is set. -/
def off (name about : String) : Member Schema := defaulted name about .flag (.bool false)

def isRequired {σ : Type} (member : Member σ) : Bool :=
  match member.presence with
  | .required => true
  | _ => false

end Member

namespace Presence

def mark : Presence → Json → Json
  | .required, schema => schema
  | .nullable, schema => schema.put "nullable" (.bool true)
  | .omittable, schema => schema
  | .defaulted default, schema => schema.put "default" default

end Presence

namespace Schema

def typed (type : String) : Json := .object [("type", .string type)]

def requiredNames (members : List (Member Schema)) : List String :=
  ((members.filter (·.isRequired)).map (·.name)).mergeSort (· ≤ ·)

mutual
def toJson : Schema → Json
  | .text => typed "string"
  | .instant => (typed "string").put "format" (.string "date-time")
  | .flag => typed "boolean"
  | .unsigned bits =>
      (typed "integer").put "format" (.string ("uint" ++ toString bits))
        |>.put "minimum" (.natural 0)
  | .signed bits => (typed "integer").put "format" (.string ("int" ++ toString bits))
  | .choice words => (typed "string").put "enum" (.strings words)
  | .list item => (typed "array").put "items" item.toJson
  | .record about members =>
      let names := requiredNames members
      let schema := ((typed "object").put "description" (.string about)).put "properties"
        (.object (membersJson members))
      if names.isEmpty then schema else schema.put "required" (.strings names)

def membersJson : List (Member Schema) → List (String × Json)
  | [] => []
  | member :: rest => memberJson member :: membersJson rest

/-- A member is described by its purpose rather than by what its values are. -/
def memberJson : Member Schema → String × Json
  | ⟨name, about, presence, schema⟩ =>
      (name, presence.mark (schema.toJson.put "description" (.string about)))
end

def members : Schema → List (Member Schema)
  | .record _ members => members
  | _ => []

def names (schema : Schema) : List String := schema.members.map (·.name)

end Schema

end ProxyOperator
