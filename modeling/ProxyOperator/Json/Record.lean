import ProxyOperator.Json.Codec
/-!
Records: JSON objects with known members. A record description names each member once, with the part
of the record it holds and the codec of that part, and serves for writing and for reading. Reading
walks the members in the order they were written, so the fault that is reported is the first one in
the text; then it looks the members up by name.
-/
namespace ProxyOperator

/-- The members of a record of type `σ` that together give an `α`. -/
structure Record (σ α : Type) where
  /-- The names of the members, in the order of a record written as an array, each with the check of
  its value. -/
  members : List (String × (Json → Decoded Unit))
  write : σ → List (String × Json)
  build : (String → Option Json) → Decoded α

namespace Record

variable {σ α β : Type}

/-- No members, and a value that does not depend on any. -/
def done (value : α) : Record σ α := ⟨[], fun _ => [], fun _ => .ok value⟩

def both (first : Record σ (α → β)) (second : Record σ α) : Record σ β where
  members := first.members ++ second.members
  write record := first.write record ++ second.write record
  build find := do
    let function ← first.build find
    return function (← second.build find)

instance : Functor (Record σ) where
  map function record :=
    { members := record.members
      write := record.write
      build := fun find => function <$> record.build find }

instance : Seq (Record σ) := ⟨fun first second => both first (second ())⟩

/-- A member with full control of both directions: how its value is written, if it is, and what is
read from its value, or from its absence. -/
def member (name : String) (write : σ → Option Json) (read : Json → Decoded α)
    (absent : Decoded α) : Record σ α where
  members := [(name, fun value => (fun _ => ()) <$> read value)]
  write record := ((write record).map fun value => (name, value)).toList
  build find :=
    match find name with
    | some value => read value
    | none => absent

/-- A member that must be there. -/
def required (name : String) (view : σ → α) (codec : Codec α) : Record σ α :=
  member name (fun record => some (codec.encode (view record))) codec.decode (.error .malformed)

/-- A member that is always written and has a default when it is absent. -/
def defaulted (name : String) (view : σ → α) (codec : Codec α) (default : α) : Record σ α :=
  member name (fun record => some (codec.encode (view record))) codec.decode (.ok default)

/-- A member that is written if it has a value; absence and null stand for none. -/
def optional (name : String) (view : σ → Option α) (codec : Codec α) : Record σ (Option α) :=
  member name (fun record => (view record).map codec.encode) codec.nullable.decode (.ok none)

/-- A list that is written if it has items; absence stands for the empty list. -/
def listed (name : String) (view : σ → List α) (codec : Codec α) : Record σ (List α) :=
  member name
    (fun record =>
      if (view record).isEmpty then none else some (codec.list.encode (view record)))
    codec.list.decode (.ok [])

/-- A member that is always written; absence and null stand for the default. -/
def lenient (name : String) (view : σ → α) (codec : Codec α) (default : α) : Record σ α :=
  member name (fun record => some (codec.encode (view record)))
    (fun value => (·.getD default) <$> codec.nullable.decode value) (.ok default)

/-- A member of one fixed text; where it is present it must hold that text. -/
def constant (name text : String) : Record σ Unit :=
  member name (fun _ => some (.string text))
    (fun value => do
      if (← Codec.string.decode value) = text then .ok () else .error .malformed)
    (.ok ())

/-- A member that is written and not read. -/
def written (name : String) (write : σ → Json) : Record σ Unit where
  members := []
  write record := [(name, write record)]
  build _ := .ok ()

/-- A member that is checked where it is present, and neither kept nor written. -/
def obsolete (name : String) (codec : Codec α) : Record σ Unit :=
  member name (fun _ => none) (fun value => (fun _ => ()) <$> codec.nullable.decode value) (.ok ())

/-! ## Reading -/

/-- How liberal the reader of a record is. -/
inductive Convention where
  /-- A known member may occur once. The record may also be an array of its members' values, the last
  ones left out if they have defaults. -/
  | strict
  /-- Of several members of one name the last one counts. Only objects are records. -/
  | cluster
  deriving DecidableEq, Repr

/-- Walk the members in the order they were written: known ones are checked, others passed over. -/
def scan (known : List (String × (Json → Decoded Unit))) (convention : Convention) :
    List String → List (String × Json) → Decoded Unit
  | _, [] => .ok ()
  | seen, (name, value) :: rest =>
      match known.lookup name with
      | some check =>
          if convention = .strict ∧ name ∈ seen then .error .malformed
          else do
            check value
            scan known convention (name :: seen) rest
      | none => do
          value.skip
          scan known convention seen rest

/-- Read a record from its members. -/
def ofMembers (record : Record σ α) (convention : Convention) (members : List (String × Json)) :
    Decoded α := do
  scan record.members convention [] members
  record.build fun name => members.reverse.lookup name

def decode (record : Record σ α) (convention : Convention) : Json → Decoded α
  | .object members => record.ofMembers convention members
  | .array values =>
      match convention with
      | .strict => do
          let members := (record.members.map (·.1)).zip values
          scan record.members convention [] members
          if values.length > record.members.length then .error .malformed
          record.build fun name => members.lookup name
      | .cluster => .error .malformed
  | _ => .error .malformed

def codec (record : Record σ σ) (convention : Convention) : Codec σ where
  encode value := .object (record.write value)
  decode := record.decode convention

end Record

end ProxyOperator
