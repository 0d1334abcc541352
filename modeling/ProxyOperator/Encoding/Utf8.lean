/-!
Texts as bytes in UTF-8.
-/
namespace ProxyOperator

namespace Utf8

def encode (text : String) : List UInt8 := text.toUTF8.toList

def decode? (bytes : List UInt8) : Option String := String.fromUTF8? ⟨bytes.toArray⟩

end Utf8

end ProxyOperator
