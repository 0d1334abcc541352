import ProxyOperator.Resource.Reference
import ProxyOperator.Time.Codec
/-!
Metadata of cluster objects. Every member may be absent, and null stands for absence.
-/
namespace ProxyOperator

structure Owner where
  apiVersion : String
  blockDeletion : Option Bool
  controller : Option Bool
  kind : String
  name : String
  uid : String
  deriving DecidableEq, Inhabited

namespace Owner

def record : Record Owner Owner :=
  Owner.mk
    <$> .lenient "apiVersion" (·.apiVersion) .string ""
    <*> .optional "blockOwnerDeletion" (·.blockDeletion) .bool
    <*> .optional "controller" (·.controller) .bool
    <*> .lenient "kind" (·.kind) .string ""
    <*> .lenient "name" (·.name) .string ""
    <*> .lenient "uid" (·.uid) .string ""

def codec : Codec Owner := record.codec .cluster

end Owner

structure ManagedFields where
  apiVersion : Option String
  fieldsType : Option String
  fields : Option Json
  manager : Option String
  operation : Option String
  subresource : Option String
  time : Option Instant
  deriving Inhabited

namespace ManagedFields

def record : Record ManagedFields ManagedFields :=
  ManagedFields.mk
    <$> .optional "apiVersion" (·.apiVersion) .string
    <*> .optional "fieldsType" (·.fieldsType) .string
    <*> .optional "fieldsV1" (·.fields) .json
    <*> .optional "manager" (·.manager) .string
    <*> .optional "operation" (·.operation) .string
    <*> .optional "subresource" (·.subresource) .string
    <*> .optional "time" (·.time) .clusterInstant

def codec : Codec ManagedFields := record.codec .cluster

end ManagedFields

structure Metadata where
  annotations : Option (Dictionary String)
  creation : Option Instant
  deletionGraceSeconds : Option Int64
  /-- When the deletion of the object was asked for; it goes once its finalizers are gone. -/
  deletion : Option Instant
  finalizers : Option (List String)
  generateName : Option String
  /-- Counts the changes of the declaration. -/
  generation : Option Int64
  labels : Option (Dictionary String)
  managedFields : Option (List ManagedFields)
  name : Option String
  «namespace» : Option String
  owners : Option (List Owner)
  /-- Changes with every write of the object. -/
  resourceVersion : Option String
  selfLink : Option String
  uid : Option String
  deriving Inhabited

namespace Metadata

def record : Record Metadata Metadata :=
  Metadata.mk
    <$> .optional "annotations" (·.annotations) (.dictionary .string)
    <*> .optional "creationTimestamp" (·.creation) .clusterInstant
    <*> .optional "deletionGracePeriodSeconds" (·.deletionGraceSeconds) .int64
    <*> .optional "deletionTimestamp" (·.deletion) .clusterInstant
    <*> .optional "finalizers" (·.finalizers) (.list .string)
    <*> .optional "generateName" (·.generateName) .string
    <*> .optional "generation" (·.generation) .int64
    <*> .optional "labels" (·.labels) (.dictionary .string)
    <*> .optional "managedFields" (·.managedFields) (.list ManagedFields.codec)
    <*> .optional "name" (·.name) .string
    <*> .optional "namespace" (·.namespace) .string
    <*> .optional "ownerReferences" (·.owners) (.list Owner.codec)
    <*> .optional "resourceVersion" (·.resourceVersion) .string
    <*> .optional "selfLink" (·.selfLink) .string
    <*> .optional "uid" (·.uid) .string

def codec : Codec Metadata := record.codec .cluster

/-- The key of the object; a name or namespace that is missing counts as empty. -/
def key (metadata : Metadata) : ObjectKey :=
  ⟨metadata.namespace.getD "", metadata.name.getD ""⟩

/-- The name by which the object is spoken of: its own, or else what it is generated from. -/
def spokenName (metadata : Metadata) : String :=
  (metadata.name <|> metadata.generateName).getD ""

/-- The key under which the object is spoken of. -/
def spokenKey (metadata : Metadata) : ObjectKey :=
  ⟨metadata.namespace.getD "", metadata.spokenName⟩

def isDeleting (metadata : Metadata) : Bool := metadata.deletion.isSome

def hasFinalizer (metadata : Metadata) (finalizer : String) : Bool :=
  (metadata.finalizers.getD []).contains finalizer

end Metadata

end ProxyOperator
