/-!
Dictionaries with texts as keys, held in strictly increasing order of their keys. The order of texts
is that of their code points, which is also the order of their UTF-8 bytes.
-/
namespace ProxyOperator

/-- Entries in strictly increasing order of their keys. -/
structure Dictionary (α : Type) where
  entries : List (String × α)
  sorted : entries.Pairwise fun first second => first.1 < second.1

namespace Dictionary

variable {α : Type}

def empty : Dictionary α := ⟨[], .nil⟩

instance : Inhabited (Dictionary α) := ⟨empty⟩

instance : EmptyCollection (Dictionary α) := ⟨empty⟩

@[ext] theorem ext {first second : Dictionary α} (same : first.entries = second.entries) :
    first = second := by
  cases first
  cases second
  cases same
  rfl

instance [DecidableEq α] : DecidableEq (Dictionary α) := fun first second =>
  if same : first.entries = second.entries then isTrue (ext same)
  else isFalse fun equal => same (congrArg entries equal)

/-- Insert into a sorted list of entries; an entry of the same key is replaced. -/
def insertEntry (key : String) (value : α) : List (String × α) → List (String × α)
  | [] => [(key, value)]
  | (other, old) :: rest =>
      if key < other then (key, value) :: (other, old) :: rest
      else if key = other then (key, value) :: rest
      else (other, old) :: insertEntry key value rest

theorem mem_insertEntry {key : String} {value : α} {entries : List (String × α)}
    {entry : String × α} (member : entry ∈ insertEntry key value entries) :
    entry = (key, value) ∨ entry ∈ entries := by
  induction entries with
  | nil => exact .inl (List.mem_singleton.mp member)
  | cons head rest induction =>
      rcases head with ⟨other, old⟩
      unfold insertEntry at member
      split at member
      · rcases List.mem_cons.mp member with equal | inside
        · exact .inl equal
        · exact .inr inside
      · split at member
        · rcases List.mem_cons.mp member with equal | inside
          · exact .inl equal
          · exact .inr (List.mem_cons_of_mem _ inside)
        · rcases List.mem_cons.mp member with equal | inside
          · exact .inr (equal ▸ List.mem_cons_self)
          · rcases induction inside with equal | deeper
            · exact .inl equal
            · exact .inr (List.mem_cons_of_mem _ deeper)

theorem insertEntry_sorted (key : String) (value : α) {entries : List (String × α)}
    (sorted : entries.Pairwise fun first second => first.1 < second.1) :
    (insertEntry key value entries).Pairwise fun first second => first.1 < second.1 := by
  induction entries with
  | nil => exact List.pairwise_singleton _ _
  | cons head rest induction =>
      rcases head with ⟨other, old⟩
      rcases List.pairwise_cons.mp sorted with ⟨least, restSorted⟩
      unfold insertEntry
      split
      · rename_i before
        refine List.pairwise_cons.mpr ⟨fun entry member => ?_, sorted⟩
        rcases List.mem_cons.mp member with equal | inside
        · exact equal ▸ before
        · exact String.lt_trans before (least entry inside)
      · split
        · rename_i equal
          refine List.pairwise_cons.mpr ⟨fun entry member => ?_, restSorted⟩
          exact equal ▸ least entry member
        · rename_i notBefore different
          refine List.pairwise_cons.mpr ⟨fun entry member => ?_, induction restSorted⟩
          rcases mem_insertEntry member with equal | inside
          · have after : other < key := by
              rcases Decidable.em (other < key) with after | notAfter
              · exact after
              · exact absurd (String.le_antisymm (String.not_lt.mp notAfter)
                  (String.not_lt.mp notBefore)) different
            exact equal ▸ after
          · exact least entry inside

def insert (dictionary : Dictionary α) (key : String) (value : α) : Dictionary α :=
  ⟨insertEntry key value dictionary.entries, insertEntry_sorted key value dictionary.sorted⟩

/-- The dictionary of a list of entries; of several entries of one key the last one counts. -/
def ofList (entries : List (String × α)) : Dictionary α :=
  entries.foldl (fun dictionary entry => dictionary.insert entry.1 entry.2) empty

def get? (dictionary : Dictionary α) (key : String) : Option α := dictionary.entries.lookup key

def values (dictionary : Dictionary α) : List α := dictionary.entries.map (·.2)

def keys (dictionary : Dictionary α) : List String := dictionary.entries.map (·.1)

def size (dictionary : Dictionary α) : Nat := dictionary.entries.length

def isEmpty (dictionary : Dictionary α) : Bool := dictionary.entries.isEmpty

end Dictionary

/-- The distinct texts of a list, in order. -/
def distinctTexts (texts : List String) : List String :=
  (Dictionary.ofList (texts.map fun text => (text, ()))).keys

end ProxyOperator
