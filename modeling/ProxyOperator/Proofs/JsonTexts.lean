import Mathlib.Tactic.IntervalCases
import ProxyOperator.Json.Codec
/-!
Compact texts are read back as the values they were made of. The text of a value is taken apart into the tokens
that spell it, and the tokens are put together into the value; what is asked of the value is that it is written in
full, with whole numbers for all its numbers, and that it is not nested too deep.
-/
namespace ProxyOperator

namespace Json

/-- A value that is written in full, with no more than so many containers inside each other. -/
inductive Fits : Nat → Json → Prop
  | null {room : Nat} : Fits room .null
  | bool {room : Nat} (flag : Bool) : Fits room (.bool flag)
  | whole {room : Nat} {value : Int} (low : -9223372036854775808 ≤ value)
      (high : value < 18446744073709551616) : Fits room (whole value)
  | string {room : Nat} (text : String) : Fits room (.string text)
  | array {room : Nat} {items : List Json} (each : ∀ item ∈ items, Fits room item) :
      Fits (room + 1) (.array items)
  | object {room : Nat} {members : List (String × Json)}
      (each : ∀ entry ∈ members, Fits room entry.2) : Fits (room + 1) (.object members)

/-! ## Tokens of a value -/

mutual
/-- The tokens of the compact text of a value. -/
def spelling : Json → List Token
  | .null => [.null]
  | .bool flag => [.bool flag]
  | .number value => [.number value]
  | .string text => [.string text]
  | .array items => .openArray :: (spellItems items ++ [.closeArray])
  | .object members => .openObject :: (spellMembers members ++ [.closeObject])
  | .flaw _ => [.null]

def spellItems : List Json → List Token
  | [] => []
  | [value] => value.spelling
  | value :: rest => value.spelling ++ .comma :: spellItems rest

def spellMembers : List (String × Json) → List Token
  | [] => []
  | [(name, value)] => .string name :: .colon :: value.spelling
  | (name, value) :: rest =>
      .string name :: .colon :: (value.spelling ++ .comma :: spellMembers rest)
end

/-! ## From texts to tokens -/

namespace Lexer

/-- The tokens of a text of which the beginning has been read. -/
def tokensOf (lexer : Lexer) (characters : List Char) : List Token :=
  (characters.foldl step lexer).finish

theorem tokensOf_cons (lexer : Lexer) (character : Char) (rest : List Char) :
    lexer.tokensOf (character :: rest) = (lexer.step character).tokensOf rest := rfl

theorem tokensOf_append (lexer : Lexer) (first second : List Char) :
    lexer.tokensOf (first ++ second) = (first.foldl step lexer).tokensOf second := by
  rw [tokensOf, tokensOf, List.foldl_append]

/-- Characters that are a token each, and end a number. -/
inductive Mark : Char → Token → Prop
  | comma : Mark ',' .comma
  | colon : Mark ':' .colon
  | closeArray : Mark ']' .closeArray
  | closeObject : Mark '}' .closeObject

/-- What comes after a value in a compact text: nothing, or a mark. -/
inductive Follows : List Char → Prop
  | nothing : Follows []
  | mark {character : Char} {token : Token} {rest : List Char} (mark : Mark character token) :
      Follows (character :: rest)

/-- The characters are read as these tokens, wherever they stand in a compact text. -/
def Reads (characters : List Char) (tokens : List Token) : Prop :=
  ∀ earlier rest, Follows rest →
    tokensOf ⟨.between, earlier⟩ (characters ++ rest) =
      tokensOf ⟨.between, tokens.reverse ++ earlier⟩ rest

variable {characters others : List Char} {tokens more : List Token} {character : Char} {token : Token}

theorem Reads.nothing : Reads [] [] := fun _ _ _ => rfl

theorem Reads.afterMark (mark : Mark character token) (reads : Reads others more) :
    Reads (character :: others) (token :: more) := by
  intro earlier rest follows
  have emitted : step ⟨.between, earlier⟩ character = ⟨.between, token :: earlier⟩ := by
    cases mark <;> rfl
  rw [List.cons_append, tokensOf_cons, emitted, reads _ _ follows, List.reverse_cons,
    List.append_assoc]
  rfl

/-- What is read one after the other with a mark in between. -/
theorem Reads.marked (first : Reads characters tokens) (mark : Mark character token)
    (second : Reads others more) :
    Reads (characters ++ character :: others) (tokens ++ token :: more) := by
  intro earlier rest follows
  rw [List.append_assoc, List.cons_append, first earlier _ (.mark mark), ← List.cons_append,
    second.afterMark mark _ _ follows,
    List.reverse_append, List.append_assoc]

theorem Reads.opened {opening : Char} (opens : ∀ earlier,
      step ⟨.between, earlier⟩ opening = ⟨.between, token :: earlier⟩)
    (reads : Reads others more) : Reads (opening :: others) (token :: more) := by
  intro earlier rest follows
  rw [List.cons_append, tokensOf_cons, opens, reads _ _ follows, List.reverse_cons,
    List.append_assoc]
  rfl

/-! ### Strings -/

/-- A string in which characters were read so far. -/
def inside (reversed : List Char) (earlier : List Token) : Lexer :=
  ⟨.string ⟨.plain, reversed, none, true⟩, earlier⟩

theorem foldl_escapeChar (character : Char) (reversed : List Char) (earlier : List Token) :
    (escapeChar character).foldl step (inside reversed earlier) =
      inside (character :: reversed) earlier := by
  by_cases control : character.toNat < 32
  · have named : character = Char.ofNat character.toNat := (Char.ofNat_toNat character).symm
    generalize character.toNat = code at control named
    subst named
    interval_cases code <;> rfl
  · by_cases quotes : character = '"'
    · subst quotes
      rfl
    by_cases escapes : character = '\\'
    · subst escapes
      rfl
    have plain : escapeChar character = [character] := by
      unfold escapeChar
      split
      case h_6 =>
        rw [if_neg (by omega), if_neg (by omega), if_neg control]
      all_goals contradiction
    rw [plain, List.foldl_cons, List.foldl_nil]
    simp [step, inside, inString, quotes, escapes, control, StringDraft.add]

theorem foldl_flatMap_escapeChar (characters reversed : List Char) (earlier : List Token) :
    (characters.flatMap escapeChar).foldl step (inside reversed earlier) =
      inside (characters.reverse ++ reversed) earlier := by
  induction characters generalizing reversed with
  | nil => rfl
  | cons character rest induction =>
      rw [List.flatMap_cons, List.foldl_append, foldl_escapeChar, induction, List.reverse_cons,
        List.append_assoc]
      rfl

theorem reads_quote (text : String) : Reads (quote text).toList [.string text] := by
  intro earlier rest _
  have characters : (quote text).toList = '"' :: (text.toList.flatMap escapeChar ++ ['"']) := by
    simp [quote]
  rw [characters, List.cons_append, tokensOf_cons, List.append_assoc, tokensOf_append]
  have opened : step ⟨.between, earlier⟩ '"' = inside [] earlier := rfl
  have closed : step (inside (text.toList.reverse ++ []) earlier) '"' =
      ⟨.between, .string text :: earlier⟩ := by
    simp [step, inside, inString, emit, StringDraft.token]
  rw [opened, foldl_flatMap_escapeChar, List.singleton_append, tokensOf_cons, closed]
  rfl

/-! ### Whole numbers -/

/-- A number of which whole digits were read so far. -/
def counting (negative : Bool) (digits : Nat) (earlier : List Token) : Lexer :=
  ⟨.number ⟨.whole, negative, digits, 0, false, 0⟩, earlier⟩

theorem toNat_digitChar {digit : Nat} (bound : digit < 10) :
    (Nat.digitChar digit).isDigit = true ∧ (Nat.digitChar digit).toNat - '0'.toNat = digit := by
  interval_cases digit <;> decide

/-- The digits of a number are taken in one after the other, once the first of them was. -/
theorem foldl_toDigits {negative : Bool} {earlier : List Token} {before : Lexer}
    (begins : ∀ digit, 0 < digit → digit < 10 →
      step before (Nat.digitChar digit) = counting negative digit earlier)
    (value : Nat) (positive : 0 < value) :
    (Nat.toDigits 10 value).foldl step before = counting negative value earlier := by
  induction value using Nat.strongRecOn with
  | ind value induction =>
      by_cases small : value < 10
      · rw [Nat.toDigits_of_lt_base small]
        exact begins value positive small
      · have last := toNat_digitChar (Nat.mod_lt value (by decide : 0 < 10))
        rw [Nat.toDigits_of_base_le (by decide) (by omega), List.foldl_append,
          induction (value / 10) (by omega) (by omega), List.foldl_cons, List.foldl_nil]
        have total : value / 10 * 10 + value % 10 = value := by omega
        simp only [step, counting, NumberDraft.extend?, last, if_true, total]

/-- A number ends where the text does, and before a mark. -/
theorem tokensOf_number {draft : NumberDraft} {value : Number} {earlier : List Token}
    {rest : List Char} (ends : draft.token = .number value)
    (stops : ∀ character token, Mark character token → draft.extend? character = none)
    (follows : Follows rest) :
    tokensOf ⟨.number draft, earlier⟩ rest = tokensOf ⟨.between, .number value :: earlier⟩ rest := by
  cases follows with
  | nothing => simp [tokensOf, finish, emit, ends]
  | @mark character token rest mark =>
      have stepped : step ⟨.number draft, earlier⟩ character =
          step ⟨.between, .number value :: earlier⟩ character := by
        have stopped := stops character token mark
        cases mark <;> simp [step, stopped, emit, ends]
      rw [tokensOf_cons, tokensOf_cons, stepped]

theorem reads_natural {value : Nat} (high : value < 18446744073709551616) :
    Reads (toString value).toList [.number (.whole value)] := by
  intro earlier rest follows
  rw [Nat.toString_eq_repr, Nat.repr_eq_ofList_toDigits, String.toList_ofList, tokensOf_append]
  by_cases zero : value = 0
  · subst zero
    exact tokensOf_number rfl (fun _ _ mark => by cases mark <;> rfl) follows
  · have begins (digit : Nat) (positive : 0 < digit) (bound : digit < 10) :
        step ⟨.between, earlier⟩ (Nat.digitChar digit) = counting false digit earlier := by
      interval_cases digit <;> rfl
    rw [foldl_toDigits begins value (Nat.pos_of_ne_zero zero)]
    refine tokensOf_number ?_ (fun _ _ mark => by cases mark <;> rfl) follows
    simp [NumberDraft.token, Number.ofDigits, high]

theorem reads_negative {value : Nat} (positive : 0 < value) (low : value ≤ 9223372036854775808) :
    Reads ('-' :: (toString value).toList) [.number (.whole (-value))] := by
  intro earlier rest follows
  rw [Nat.toString_eq_repr, Nat.repr_eq_ofList_toDigits, String.toList_ofList, List.cons_append,
    tokensOf_cons, tokensOf_append]
  have begins (digit : Nat) (positive : 0 < digit) (bound : digit < 10) :
      step (step ⟨.between, earlier⟩ '-') (Nat.digitChar digit) = counting true digit earlier := by
    interval_cases digit <;> rfl
  rw [foldl_toDigits begins value positive]
  refine tokensOf_number ?_ (fun _ _ mark => by cases mark <;> rfl) follows
  have within : ¬ (value = 0 ∨ 9223372036854775808 < value) := by omega
  simp [NumberDraft.token, Number.ofDigits, within]

theorem reads_whole {value : Int} (low : -9223372036854775808 ≤ value)
    (high : value < 18446744073709551616) :
    Reads (toString value).toList [.number (.whole value)] := by
  cases value with
  | ofNat value =>
      have bound : (value : Int) < 18446744073709551616 := high
      exact reads_natural (by omega)
  | negSucc value =>
      have characters : (toString (Int.negSucc value)).toList = '-' :: (toString (value + 1)).toList := by
        rw [Int.toString_eq_repr, Int.repr, String.toList_append]
        rfl
      rw [characters]
      exact reads_negative (Nat.succ_pos value) (by omega)

/-! ### Values -/

theorem reads_items {items : List Json} (nonempty : items ≠ [])
    (each : ∀ item ∈ items, Reads item.render.toList item.spelling) :
    Reads (renderItems items).toList (spellItems items) := by
  induction items with
  | nil => exact absurd rfl nonempty
  | cons item rest induction =>
      cases rest with
      | nil => exact each item (.head _)
      | cons next others =>
          have further := induction (List.cons_ne_nil _ _) fun other inside =>
            each other (.tail _ inside)
          have text : (renderItems (item :: next :: others)).toList =
              item.render.toList ++ ',' :: (renderItems (next :: others)).toList := by
            simp [renderItems]
          rw [text]
          exact (each item (.head _)).marked .comma further

theorem reads_member (name : String) {value : Json}
    (reads : Reads value.render.toList value.spelling) :
    Reads ((quote name).toList ++ ':' :: value.render.toList)
      (.string name :: .colon :: value.spelling) :=
  (reads_quote name).marked .colon reads

theorem reads_members {members : List (String × Json)} (nonempty : members ≠ [])
    (each : ∀ entry ∈ members, Reads entry.2.render.toList entry.2.spelling) :
    Reads (renderMembers members).toList (spellMembers members) := by
  induction members with
  | nil => exact absurd rfl nonempty
  | cons head rest induction =>
      rcases head with ⟨name, value⟩
      have first := reads_member name (each _ (.head _))
      cases rest with
      | nil =>
          have text : (renderMembers [(name, value)]).toList =
              (quote name).toList ++ ':' :: value.render.toList := by
            simp [renderMembers]
          rw [text]
          exact first
      | cons next others =>
          have further := induction (List.cons_ne_nil _ _) fun other inside =>
            each other (.tail _ inside)
          have text : (renderMembers ((name, value) :: next :: others)).toList =
              ((quote name).toList ++ ':' :: value.render.toList) ++
                ',' :: (renderMembers (next :: others)).toList := by
            simp [renderMembers]
          rw [text]
          exact first.marked .comma further

theorem reads_render {room : Nat} {json : Json} (fits : Fits room json) :
    Reads json.render.toList json.spelling := by
  induction fits with
  | null =>
      intro earlier rest _
      rfl
  | bool flag =>
      intro earlier rest _
      cases flag <;> rfl
  | whole low high => exact reads_whole low high
  | string text => exact reads_quote text
  | @array room items each induction =>
      have text : (Json.array items).render.toList = '[' :: ((renderItems items).toList ++ [']']) := by
        simp [render]
      rw [text]
      apply Reads.opened fun _ => rfl
      by_cases empty : items = []
      · subst empty
        exact Reads.nothing.afterMark .closeArray
      · exact (reads_items empty induction).marked .closeArray .nothing
  | @object room members each induction =>
      have text : (Json.object members).render.toList =
          '{' :: ((renderMembers members).toList ++ ['}']) := by
        simp [render]
      rw [text]
      apply Reads.opened fun _ => rfl
      by_cases empty : members = []
      · subst empty
        exact Reads.nothing.afterMark .closeObject
      · exact (reads_members empty induction).marked .closeObject .nothing

end Lexer

theorem tokens_render {room : Nat} {json : Json} (fits : Fits room json) :
    tokens json.render = json.spelling := by
  have read := Lexer.reads_render fits [] [] .nothing
  rw [List.append_nil, List.append_nil] at read
  rw [tokens, String.foldl_eq_foldl_toList]
  refine read.trans ?_
  simp [Lexer.tokensOf, Lexer.finish]

/-! ## From tokens to values -/

namespace Builder

/-- A builder in the midst of a sound document. -/
def within (frames : List Frame) (expectation : Expectation) : Builder :=
  ⟨frames, expectation, none, false, false⟩

/-- The tokens are put together into this value, wherever they stand in a document with so much room left. -/
def Makes (room : Nat) (tokens : List Token) (value : Json) : Prop :=
  ∀ frames expectation, expectation = .value ∨ expectation = .firstItem →
    frames.length + room ≤ depthLimit →
    tokens.foldl step (within frames expectation) = (within frames .value).add value

variable {room : Nat} {frames : List Frame}

/-- A token that is a value of its own. -/
theorem makes_token {token : Token} {value : Json} (other : token ≠ .closeArray)
    (added : ∀ frames expectation,
      (within frames expectation).value token = (within frames .value).add value) :
    Makes room [token] value := by
  rintro frames expectation (rfl | rfl) _
  · exact added frames .value
  · simp only [List.foldl_cons, List.foldl_nil, step, within, if_neg other]
    exact added frames .firstItem

theorem add_within (frames : List Frame) (expectation other : Expectation) (value : Json) :
    (within frames expectation).add value = (within frames other).add value := by
  unfold add within
  rcases frames with _ | ⟨_ | _, _⟩ <;> rfl

/-- Items after those that were read, up to the end of the array. -/
theorem foldl_items {items reversed : List Json} {expectation : Expectation} (nonempty : items ≠ [])
    (expects : expectation = .value ∨ expectation = .firstItem)
    (space : frames.length + (room + 1) ≤ depthLimit)
    (each : ∀ item ∈ items, Makes room item.spelling item) :
    (spellItems items).foldl step (within (.array reversed :: frames) expectation) =
      within (.array (items.reverse ++ reversed) :: frames) .separator := by
  have inner (reversed : List Json) : (Frame.array reversed :: frames).length + room ≤ depthLimit := by
    rw [List.length_cons]
    omega
  induction items generalizing reversed expectation with
  | nil => exact absurd rfl nonempty
  | cons item rest induction =>
      have first := each item (.head _) (.array reversed :: frames) expectation expects (inner _)
      cases rest with
      | nil => exact first
      | cons next others =>
          have text : spellItems (item :: next :: others) =
              item.spelling ++ .comma :: spellItems (next :: others) := rfl
          have separated : step ((within (.array reversed :: frames) .value).add item) .comma =
              within (.array (item :: reversed) :: frames) .value := rfl
          rw [text, List.foldl_append, first, List.foldl_cons, separated,
            induction (List.cons_ne_nil _ _) (.inl rfl) fun other inside => each other (.tail _ inside)]
          simp

/-- Members after those that were read, up to the end of the object. -/
theorem foldl_members {members reversed : List (String × Json)} {before : String}
    {expectation : Expectation} (nonempty : members ≠ [])
    (expects : expectation = .name ∨ expectation = .firstName)
    (space : frames.length + (room + 1) ≤ depthLimit)
    (each : ∀ entry ∈ members, Makes room entry.2.spelling entry.2) :
    ∃ last, (spellMembers members).foldl step (within (.object reversed before true :: frames) expectation) =
      within (.object (members.reverse ++ reversed) last true :: frames) .separator := by
  induction members generalizing reversed before expectation with
  | nil => exact absurd rfl nonempty
  | cons head rest induction =>
      rcases head with ⟨name, value⟩
      have named : step (step (within (.object reversed before true :: frames) expectation)
          (.string name)) .colon = within (.object reversed name true :: frames) .value := by
        rcases expects with rfl | rfl <;> rfl
      have first := each _ (.head _) (.object reversed name true :: frames) .value (.inl rfl)
        (by rw [List.length_cons]; omega)
      cases rest with
      | nil =>
          refine ⟨name, ?_⟩
          rw [spellMembers, List.foldl_cons, List.foldl_cons, named]
          exact first
      | cons next others =>
          have separated : step ((within (.object reversed name true :: frames) .value).add value)
              .comma = within (.object ((name, value) :: reversed) name true :: frames) .name := rfl
          rcases induction (List.cons_ne_nil _ _) (.inl rfl) fun other inside => each other (.tail _ inside) with
            ⟨last, further⟩
          refine ⟨last, ?_⟩
          rw [spellMembers, List.foldl_cons, List.foldl_cons, named, List.foldl_append, first,
            List.foldl_cons, separated, further]
          · simp
          · simp

theorem close_array {reversed : List Json} {expectation : Expectation}
    (space : frames.length < depthLimit) :
    (within (.array reversed :: frames) expectation).close =
      (within frames .value).add (.array reversed.reverse) := by
  have shallow : ¬ (Frame.array reversed :: frames).length > depthLimit := by
    rw [List.length_cons]
    omega
  simp only [close, within, shallow, if_false]
  exact add_within ..

theorem close_object {reversed : List (String × Json)} {name : String} {expectation : Expectation}
    (space : frames.length < depthLimit) :
    (within (.object reversed name true :: frames) expectation).close =
      (within frames .value).add (.object reversed.reverse) := by
  have shallow : ¬ (Frame.object reversed name true :: frames).length > depthLimit := by
    rw [List.length_cons]
    omega
  simp only [close, within, shallow, not_true, or_self, if_false]
  exact add_within ..

theorem makes_spelling {json : Json} (fits : Fits room json) : Makes room json.spelling json := by
  induction fits with
  | null => exact makes_token Token.noConfusion fun _ _ => add_within ..
  | bool flag => exact makes_token Token.noConfusion fun _ _ => add_within ..
  | whole low high => exact makes_token Token.noConfusion fun _ _ => add_within ..
  | string text => exact makes_token Token.noConfusion fun _ _ => add_within ..
  | @array room items each induction =>
      intro frames expectation expects space
      have opened : step (within frames expectation) .openArray =
          within (.array [] :: frames) .firstItem := by
        rcases expects with rfl | rfl <;> rfl
      rw [spelling, List.foldl_cons, opened, List.foldl_append]
      by_cases empty : items = []
      · subst empty
        exact close_array (by omega)
      · rw [foldl_items empty (.inr rfl) space induction]
        refine (close_array (by omega)).trans ?_
        rw [List.append_nil, List.reverse_reverse]
  | @object room members each induction =>
      intro frames expectation expects space
      have opened : step (within frames expectation) .openObject =
          within (.object [] "" true :: frames) .firstName := by
        rcases expects with rfl | rfl <;> rfl
      rw [spelling, List.foldl_cons, opened, List.foldl_append]
      by_cases empty : members = []
      · subst empty
        exact close_object (by omega)
      · rcases foldl_members empty (.inr rfl) space induction with ⟨last, read⟩
        rw [read]
        refine (close_object (by omega)).trans ?_
        rw [List.append_nil, List.reverse_reverse]

end Builder

/-- What is printed is read back, if it is written in full and not nested too deep. -/
theorem read_render {json : Json} (fits : Fits Builder.depthLimit json) :
    read json.render = ⟨json, true⟩ := by
  have made := Builder.makes_spelling fits [] .value (.inl rfl) (Nat.le_of_eq (Nat.zero_add _))
  rw [read, tokens_render fits]
  change ((json.spelling).foldl Builder.step (Builder.within [] .value)).finish = _
  rw [made]
  rfl

end Json

theorem Codec.ofText_render {α : Type} (codec : Codec α) {json : Json}
    (fits : json.Fits Json.Builder.depthLimit) : codec.ofText json.render = codec.decode json := by
  unfold ofText ofDocument
  rw [Json.read_render fits]
  cases codec.decode json <;> rfl

end ProxyOperator
