import ProxyOperator.Encoding.Hex
import ProxyOperator.Text.Blank
/-!
Quoted texts as they stand in diagnostic messages: quotes, backslashes and control characters are
escaped, and so is every character that would not show on its own, by its code point.
-/
namespace ProxyOperator

namespace Quoted

/-- Ranges of characters that do not show on their own: controls, format characters, combining marks,
private use, and code points that are no characters. -/
def hiddenRanges : List (Nat × Nat) :=
  [(0x00, 0x1F), (0x7F, 0x9F), (0xAD, 0xAD), (0x300, 0x36F), (0x483, 0x489), (0x591, 0x5BD),
    (0x5BF, 0x5BF), (0x5C1, 0x5C2), (0x5C4, 0x5C5), (0x5C7, 0x5C7), (0x600, 0x605), (0x610, 0x61A),
    (0x61C, 0x61C), (0x64B, 0x65F), (0x670, 0x670), (0x6D6, 0x6DD), (0x6DF, 0x6E4), (0x6E7, 0x6E8),
    (0x6EA, 0x6ED), (0x70F, 0x70F), (0x711, 0x711), (0x730, 0x74A), (0x180B, 0x180F),
    (0x1AB0, 0x1ACE), (0x1DC0, 0x1DFF), (0x200B, 0x200F), (0x2028, 0x202E), (0x2060, 0x206F),
    (0x20D0, 0x20F0), (0x302A, 0x302F), (0x3099, 0x309A), (0xD800, 0xF8FF), (0xFDD0, 0xFDEF),
    (0xFE00, 0xFE0F), (0xFE20, 0xFE2F), (0xFEFF, 0xFEFF), (0xFF9E, 0xFF9F), (0xFFF0, 0xFFFB),
    (0xFFFE, 0xFFFF), (0xE0000, 0xE0FFF), (0xF0000, 0x10FFFF)]

/-- Whether a character shows on its own; of the blanks only the plain space does. -/
def shows (character : Char) : Bool :=
  character = ' ' ||
    (!isBlank character &&
      !(hiddenRanges.any fun range =>
        range.1 ≤ character.toNat && character.toNat ≤ range.2))

def escapeChar (character : Char) : List Char :=
  match character with
  | '"' => ['\\', '"']
  | '\\' => ['\\', '\\']
  | '\n' => ['\\', 'n']
  | '\r' => ['\\', 'r']
  | '\t' => ['\\', 't']
  | other =>
      if other.toNat = 0 then ['\\', '0']
      else if shows other then [other]
      else ['\\', 'u', '{'] ++ Nat.toDigits 16 other.toNat ++ ['}']

def quote (text : String) : String :=
  "\"" ++ String.ofList (text.toList.flatMap escapeChar) ++ "\""

end Quoted

end ProxyOperator
