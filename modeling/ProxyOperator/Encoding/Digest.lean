import ProxyOperator.Encoding.Hex
import ProxyOperator.Encoding.Utf8
/-!
The 64-bit FNV-1a digest: each byte is folded into the running hash by exclusive or and a
multiplication with a fixed prime.
-/
namespace ProxyOperator

namespace Digest

def basis : UInt64 := 0xcbf29ce484222325

def prime : UInt64 := 0x00000100000001b3

def ofBytes (bytes : List UInt8) : UInt64 :=
  bytes.foldl (fun hash byte => (hash ^^^ byte.toUInt64) * prime) basis

/-- The digest of a text in UTF-8, in hexadecimal digits. -/
def ofText (text : String) : String := Hex.ofNat (ofBytes (Utf8.encode text)).toNat

end Digest

end ProxyOperator
