import ProxyOperator.Json.Number
/-!
The tokens of a JSON text. The text is taken in one character at a time, so every text has tokens; the
first character that no token can begin or go on with yields the token `junk`, and nothing is read
after it.
-/
namespace ProxyOperator

namespace Json

inductive Token where
  | openArray
  | closeArray
  | openObject
  | closeObject
  | comma
  | colon
  | null
  | bool (value : Bool)
  | number (value : Number)
  /-- A number beyond every floating-point number. -/
  | hugeNumber
  | string (value : String)
  /-- A string with half of a surrogate pair in it. -/
  | brokenString
  | junk
  deriving DecidableEq, Repr, Inhabited

/-! ## Numbers -/

inductive NumberPhase where
  | sign
  | zero
  | whole
  | point
  | fraction
  | mark
  | exponentSign
  | exponent
  deriving DecidableEq, Repr

structure NumberDraft where
  phase : NumberPhase
  negative : Bool
  digits : Nat
  /-- How many of them belong to the fraction. -/
  places : Nat
  exponentNegative : Bool
  exponent : Nat
  deriving Repr

namespace NumberDraft

def token (draft : NumberDraft) : Token :=
  let decimal (exponent : Int) : Token :=
    let value : Decimal := ⟨draft.negative, draft.digits, exponent - draft.places⟩
    if value.overflows then .hugeNumber else .number (.decimal value)
  match draft.phase with
  | .zero | .whole =>
      match Number.ofDigits draft.negative draft.digits with
      | .whole value => .number (.whole value)
      | .decimal value => if value.overflows then .hugeNumber else .number (.decimal value)
  | .fraction => decimal 0
  | .exponent =>
      decimal (if draft.exponentNegative then -(draft.exponent : Int) else draft.exponent)
  | _ => .junk

/-- Go on with one character, if the number can. -/
def extend? (draft : NumberDraft) (character : Char) : Option NumberDraft :=
  let digit := character.toNat - '0'.toNat
  match draft.phase with
  | .sign =>
      if character = '0' then some { draft with phase := .zero }
      else if character.isDigit then some { draft with phase := .whole, digits := digit }
      else none
  | .zero =>
      if character = '.' then some { draft with phase := .point }
      else if character = 'e' ∨ character = 'E' then some { draft with phase := .mark }
      else none
  | .whole =>
      if character.isDigit then some { draft with digits := draft.digits * 10 + digit }
      else if character = '.' then some { draft with phase := .point }
      else if character = 'e' ∨ character = 'E' then some { draft with phase := .mark }
      else none
  | .point | .fraction =>
      if character.isDigit then
        some { draft with
          phase := .fraction, digits := draft.digits * 10 + digit, places := draft.places + 1 }
      else if draft.phase = .fraction ∧ (character = 'e' ∨ character = 'E') then
        some { draft with phase := .mark }
      else none
  | .mark =>
      if character = '+' then some { draft with phase := .exponentSign }
      else if character = '-' then
        some { draft with phase := .exponentSign, exponentNegative := true }
      else if character.isDigit then some { draft with phase := .exponent, exponent := digit }
      else none
  | .exponentSign | .exponent =>
      if character.isDigit then
        some { draft with phase := .exponent, exponent := draft.exponent * 10 + digit }
      else none

end NumberDraft

/-! ## Strings -/

inductive StringPhase where
  | plain
  | escape
  /-- Inside the four digits of a code unit: how many are still to come, and their value so far. -/
  | unit (remaining : Nat) (value : Nat)
  deriving DecidableEq, Repr

structure StringDraft where
  phase : StringPhase
  reversed : List Char
  /-- The first half of a surrogate pair whose second half must come next. -/
  high : Option Nat
  /-- Whether all halves so far made pairs. -/
  sound : Bool
  deriving Repr

namespace StringDraft

def token (draft : StringDraft) : Token :=
  if draft.sound ∧ draft.high.isNone then .string (String.ofList draft.reversed.reverse)
  else .brokenString

/-- Add a character. A first half that waits for its second is left alone for good. -/
def add (draft : StringDraft) (character : Char) : StringDraft :=
  { draft with
    phase := .plain
    reversed := character :: draft.reversed
    sound := draft.sound && draft.high.isNone
    high := none }

def addUnit (draft : StringDraft) (value : Nat) : StringDraft :=
  if 0xDC00 ≤ value ∧ value ≤ 0xDFFF then
    match draft.high with
    | some high =>
        { draft with
          phase := .plain
          reversed := Char.ofNat (0x10000 + (high - 0xD800) * 0x400 + (value - 0xDC00)) :: draft.reversed
          high := none }
    | none => { draft with phase := .plain, sound := false }
  else if 0xD800 ≤ value ∧ value ≤ 0xDBFF then
    { draft with phase := .plain, high := some value, sound := draft.sound && draft.high.isNone }
  else draft.add (Char.ofNat value)

def hexValue? (character : Char) : Option Nat :=
  if character.isDigit then some (character.toNat - '0'.toNat)
  else if 'a' ≤ character ∧ character ≤ 'f' then some (character.toNat - 'a'.toNat + 10)
  else if 'A' ≤ character ∧ character ≤ 'F' then some (character.toNat - 'A'.toNat + 10)
  else none

end StringDraft

/-! ## The lexer -/

inductive LexerState where
  | between
  /-- Inside `null`, `true` or `false`: the characters still to come and the token they complete. -/
  | word (remaining : List Char) (token : Token)
  | number (draft : NumberDraft)
  | string (draft : StringDraft)
  | stopped
  deriving Repr

/-- The tokens read so far, the last one first, and what is being read. -/
structure Lexer where
  state : LexerState
  reversed : List Token
  deriving Repr

namespace Lexer

def start : Lexer := ⟨.between, []⟩

def emit (lexer : Lexer) (token : Token) : Lexer :=
  ⟨if token = .junk then .stopped else .between, token :: lexer.reversed⟩

/-- The blanks of JSON: space, tab, line feed and carriage return. -/
def isBlank (character : Char) : Bool :=
  character = ' ' || character = '\t' || character = '\n' || character = '\r'

/-- A character between tokens. -/
def begin (lexer : Lexer) (character : Char) : Lexer :=
  if isBlank character then { lexer with state := .between }
  else
    match character with
    | '[' => lexer.emit .openArray
    | ']' => lexer.emit .closeArray
    | '{' => lexer.emit .openObject
    | '}' => lexer.emit .closeObject
    | ',' => lexer.emit .comma
    | ':' => lexer.emit .colon
    | '"' => { lexer with state := .string ⟨.plain, [], none, true⟩ }
    | 'n' => { lexer with state := .word ['u', 'l', 'l'] .null }
    | 't' => { lexer with state := .word ['r', 'u', 'e'] (.bool true) }
    | 'f' => { lexer with state := .word ['a', 'l', 's', 'e'] (.bool false) }
    | '-' => { lexer with state := .number ⟨.sign, true, 0, 0, false, 0⟩ }
    | '0' => { lexer with state := .number ⟨.zero, false, 0, 0, false, 0⟩ }
    | other =>
        if other.isDigit then
          { lexer with
            state := .number ⟨.whole, false, other.toNat - '0'.toNat, 0, false, 0⟩ }
        else lexer.emit .junk

def inString (lexer : Lexer) (draft : StringDraft) (character : Char) : Lexer :=
  let goOn (draft : StringDraft) : Lexer := { lexer with state := .string draft }
  match draft.phase with
  | .plain =>
      if character = '"' then lexer.emit draft.token
      else if character = '\\' then goOn { draft with phase := .escape }
      else if character.toNat < 32 then lexer.emit .junk
      else goOn (draft.add character)
  | .escape =>
      match character with
      | '"' => goOn (draft.add '"')
      | '\\' => goOn (draft.add '\\')
      | '/' => goOn (draft.add '/')
      | 'b' => goOn (draft.add (Char.ofNat 8))
      | 'f' => goOn (draft.add (Char.ofNat 12))
      | 'n' => goOn (draft.add '\n')
      | 'r' => goOn (draft.add '\r')
      | 't' => goOn (draft.add '\t')
      | 'u' => goOn { draft with phase := .unit 4 0 }
      | _ => lexer.emit .junk
  | .unit remaining value =>
      match StringDraft.hexValue? character with
      | none => lexer.emit .junk
      | some digit =>
          let value := value * 16 + digit
          if remaining ≤ 1 then goOn (draft.addUnit value)
          else goOn { draft with phase := .unit (remaining - 1) value }

def step (lexer : Lexer) (character : Char) : Lexer :=
  match lexer.state with
  | .between => lexer.begin character
  | .word remaining token =>
      match remaining with
      | [] => lexer.emit .junk
      | [last] => if character = last then lexer.emit token else lexer.emit .junk
      | next :: rest =>
          if character = next then { lexer with state := .word rest token } else lexer.emit .junk
  | .number draft =>
      match draft.extend? character with
      | some draft => { lexer with state := .number draft }
      | none =>
          let ended := lexer.emit draft.token
          match ended.state with
          | .stopped => ended
          | _ =>
              -- a digit after a leading zero belongs to no number
              if character.isDigit then ended.emit .junk else ended.begin character
  | .string draft => lexer.inString draft character
  | .stopped => lexer

def finish (lexer : Lexer) : List Token :=
  let ended :=
    match lexer.state with
    | .between | .stopped => lexer
    | .number draft => lexer.emit draft.token
    | _ => lexer.emit .junk
  ended.reversed.reverse

end Lexer

def tokens (text : String) : List Token := (text.foldl Lexer.step Lexer.start).finish

end Json

end ProxyOperator
