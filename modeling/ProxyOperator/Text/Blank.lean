/-!
White space as Unicode defines it, and texts without it at their ends.
-/
namespace ProxyOperator

/-- The characters with the Unicode property White_Space. -/
def isBlank (character : Char) : Bool :=
  let code := character.toNat
  (9 ≤ code && code ≤ 13) || code = 0x20 || code = 0x85 || code = 0xA0 || code = 0x1680 ||
    (0x2000 ≤ code && code ≤ 0x200A) || code = 0x2028 || code = 0x2029 || code = 0x202F ||
    code = 0x205F || code = 0x3000

def trimStart (characters : List Char) : List Char := characters.dropWhile isBlank

def trimChars (characters : List Char) : List Char :=
  (trimStart (trimStart characters).reverse).reverse

def trimText (text : String) : String := String.ofList (trimChars text.toList)

end ProxyOperator
