import ProxyOperator.Encoding.Base64
import ProxyOperator.Encoding.Utf8
import ProxyOperator.Failure
import ProxyOperator.Resource.Metadata
/-!
Secrets of the cluster: bytes and texts under keys.
-/
namespace ProxyOperator

/-- Bytes, written in base 64. Null stands for no bytes. -/
def Codec.bytes : Codec (List UInt8) where
  encode value := .string (Base64.encode value)
  decode
    | .null => .ok []
    | .string text =>
        match Base64.decode? text with
        | some bytes => .ok bytes
        | none => .error .malformed
    | _ => .error .malformed

structure Secret where
  data : Option (Dictionary (List UInt8))
  isImmutable : Option Bool
  metadata : Metadata
  /-- Texts that have not been turned into bytes. -/
  texts : Option (Dictionary String)
  type : Option String
  deriving Inhabited

namespace Secret

def record : Record Secret Secret :=
  (fun _ _ data isImmutable metadata texts type => ⟨data, isImmutable, metadata, texts, type⟩)
    <$> .constant "apiVersion" "v1"
    <*> .constant "kind" "Secret"
    <*> .optional "data" (·.data) (.dictionary .bytes)
    <*> .optional "immutable" (·.isImmutable) .bool
    <*> .lenient "metadata" (·.metadata) Metadata.codec default
    <*> .optional "stringData" (·.texts) (.dictionary .string)
    <*> .optional "type" (·.type) .string

def codec : Codec Secret := record.codec .cluster

/-- The text under a key. Bytes come before texts, and must be UTF-8. -/
def text? (secret : Secret) (key : String) : Except Failure (Option String) :=
  match secret.data.bind (·.get? key) with
  | some bytes =>
      match Utf8.decode? bytes with
      | some text => .ok (some text)
      | none =>
          .error <| .invalid <|
            "secret " ++ secret.metadata.name.getD "" ++ " key " ++ key ++ " is not UTF-8"
  | none => .ok (secret.texts.bind (·.get? key))

end Secret

end ProxyOperator
