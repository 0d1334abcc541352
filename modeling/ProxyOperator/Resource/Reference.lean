import ProxyOperator.Json.Record
/-!
References from one declaration to another object. One that names no namespace stays in the namespace
of the object it stands in.
-/
namespace ProxyOperator

structure ObjectKey where
  «namespace» : String
  name : String
  deriving DecidableEq, Repr, Inhabited

def ObjectKey.text (key : ObjectKey) : String := key.namespace ++ "/" ++ key.name

structure ResourceRef where
  name : String
  «namespace» : Option String
  deriving DecidableEq, Repr, Inhabited

namespace ResourceRef

def named (name : String) : ResourceRef := ⟨name, none⟩

def resolve (reference : ResourceRef) (own : String) : ObjectKey :=
  ⟨reference.namespace.getD own, reference.name⟩

def record : Record ResourceRef ResourceRef :=
  ResourceRef.mk
    <$> .required "name" (·.name) .string
    <*> .optional "namespace" (·.namespace) .string

def codec : Codec ResourceRef := record.codec .strict

end ResourceRef

structure SecretKeyRef where
  name : String
  key : String
  deriving DecidableEq, Repr, Inhabited

namespace SecretKeyRef

def record : Record SecretKeyRef SecretKeyRef :=
  SecretKeyRef.mk
    <$> .required "name" (·.name) .string
    <*> .required "key" (·.key) .string

def codec : Codec SecretKeyRef := record.codec .strict

end SecretKeyRef

end ProxyOperator
