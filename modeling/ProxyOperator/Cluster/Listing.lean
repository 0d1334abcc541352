import ProxyOperator.Json.Record
/-!
Lists of objects as the cluster answers them.
-/
namespace ProxyOperator

structure ListMetadata where
  /-- Where to go on with a list that was cut. -/
  continuation : Option String
  remaining : Option Int64
  resourceVersion : Option String
  selfLink : Option String
  deriving DecidableEq, Inhabited

namespace ListMetadata

def record : Record ListMetadata ListMetadata :=
  ListMetadata.mk
    <$> .optional "continue" (·.continuation) .string
    <*> .optional "remainingItemCount" (·.remaining) .int64
    <*> .optional "resourceVersion" (·.resourceVersion) .string
    <*> .optional "selfLink" (·.selfLink) .string

def codec : Codec ListMetadata := record.codec .cluster

end ListMetadata

structure Listing (α : Type) where
  metadata : ListMetadata
  items : List α
  deriving Inhabited

namespace Listing

variable {α : Type}

/-- There must be items, though null will do for an empty list. -/
def record (item : Codec α) : Record (Listing α) (Listing α) :=
  (Listing.mk
    <$> .defaulted "metadata" (·.metadata) ListMetadata.codec default
    <*> .member "items" (fun listing => some ((Codec.list item).encode listing.items))
      (fun value => (·.getD []) <$> (Codec.list item).nullable.decode value) (.error .malformed))

/-- Members that are not known are read to their end, and what they say must be usable. -/
def codec (item : Codec α) : Codec (Listing α) where
  encode := ((record item).codec .strict).encode
  decode
    | .object members =>
        let known := (record item).members.map (·.1)
        let others := members.filter fun entry => entry.1 ∉ known
        if others.all (·.2.usable) then (record item).ofMembers .strict members
        else .error .malformed
    | _ => .error .malformed

end Listing

end ProxyOperator
