import ProxyOperator.Resource.Basic
/-!
Events: what the operator tells about an object while it works on it.
-/
namespace ProxyOperator

structure ObjectReference where
  apiVersion : Option String
  fieldPath : Option String
  kind : Option String
  name : Option String
  «namespace» : Option String
  resourceVersion : Option String
  uid : Option String
  deriving DecidableEq, Inhabited

namespace ObjectReference

def record : Record ObjectReference ObjectReference :=
  ObjectReference.mk
    <$> .optional "apiVersion" (·.apiVersion) .string
    <*> .optional "fieldPath" (·.fieldPath) .string
    <*> .optional "kind" (·.kind) .string
    <*> .optional "name" (·.name) .string
    <*> .optional "namespace" (·.namespace) .string
    <*> .optional "resourceVersion" (·.resourceVersion) .string
    <*> .optional "uid" (·.uid) .string

def codec : Codec ObjectReference := record.codec .cluster

end ObjectReference

inductive EventType where
  | normal
  | warning
  deriving DecidableEq, Repr, Inhabited

def EventType.name : EventType → String
  | .normal => "Normal"
  | .warning => "Warning"

structure Event where
  about : ObjectReference
  type : EventType
  reason : String
  action : String
  note : Option String
  deriving DecidableEq, Inhabited

namespace Event

/-! What the operator may be doing. -/

def reconcile : String := "Reconcile"

def delete : String := "Delete"

/-! What may happen. -/

def created : String := "Created"

def adopted : String := "Adopted"

def syncFailed : String := "SyncFailed"

def restored : String := "Restored"

def disabled : String := "Disabled"

def deleted : String := "Deleted"

def cleanupFailed : String := "CleanupFailed"

def tokenRefreshed : String := "TokenRefreshed"

def certificateUploaded : String := "CertificateUploaded"

end Event

def Resource.reference {kind : Kind} (resource : Resource kind) : ObjectReference where
  apiVersion := some ProxyOperator.apiVersion
  fieldPath := none
  kind := some kind.name
  name := resource.metadata.name
  «namespace» := resource.metadata.namespace
  resourceVersion := none
  uid := resource.metadata.uid

end ProxyOperator
