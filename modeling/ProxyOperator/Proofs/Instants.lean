import Mathlib.Algebra.Ring.Nat
import ProxyOperator.Proofs.Dates
import ProxyOperator.Time.Codec
/-!
Instants as texts, forth and back: the text of an instant to the nanosecond reads as that instant, in every
supported year and in leap seconds too.
-/
namespace ProxyOperator

namespace Instant

/-! ## Digits -/

/-- The digits of a number, filled up with zeros in front. -/
def digitsOf (width value : Nat) : List Char :=
  List.replicate (width - (Nat.toDigits 10 value).length) '0' ++ Nat.toDigits 10 value

@[simp] theorem toList_padded (width value : Nat) : (padded width value).toList = digitsOf width value :=
  String.toList_ofList

theorem isDigit_of_mem_digitsOf {width value : Nat} {digit : Char}
    (inside : digit ∈ digitsOf width value) : digit.isDigit = true := by
  rcases List.mem_append.mp inside with zero | proper
  · rw [List.eq_of_mem_replicate zero]
    rfl
  · exact Nat.isDigit_of_mem_toDigits (by decide) (by decide) proper

theorem length_digitsOf {width value : Nat} (positive : 0 < width) (fits : value < 10 ^ width) :
    (digitsOf width value).length = width := by
  have short := (Nat.length_toDigits_le_iff (by decide) positive).mpr fits
  rw [digitsOf, List.length_append, List.length_replicate]
  omega

theorem digitsOf_ne_nil (width value : Nat) : digitsOf width value ≠ [] := by
  intro empty
  have proper := (List.append_eq_nil_iff.mp empty).2
  have positive : 0 < (Nat.toDigits 10 value).length := Nat.length_toDigits_pos
  rw [proper] at positive
  exact absurd positive (by decide)

/-- The number that a reader makes of digits. -/
def valueOf (digits : List Char) : Nat :=
  digits.foldl (fun value digit => value * 10 + (digit.toNat - '0'.toNat)) 0

@[simp] theorem valueOf_digitsOf (width value : Nat) : valueOf (digitsOf width value) = value := by
  have same : valueOf (digitsOf width value) = Nat.ofDigitChars 10 (digitsOf width value) 0 := by
    simp only [valueOf, Nat.ofDigitChars_eq_foldl, Nat.mul_comm]
  rw [same, digitsOf, Nat.ofDigitChars_append, Nat.ofDigitChars_replicate_zero, Nat.mul_zero,
    Nat.ofDigitChars_ten_toDigits]

/-! ## Readers step by step -/

namespace Scan

variable {α β : Type}

/-- What comes after digits that a reader takes as far as they go. -/
def NoDigit (rest : List Char) : Prop := ∀ first ∈ rest.head?, first.isDigit = false

theorem takeWhile_digits {digits rest : List Char} (proper : ∀ digit ∈ digits, digit.isDigit = true)
    (ends : NoDigit rest) : (digits ++ rest).takeWhile Char.isDigit = digits := by
  rw [List.takeWhile_append_of_pos proper]
  cases rest with
  | nil => exact List.append_nil digits
  | cons first further =>
      rw [List.takeWhile_cons_of_neg (by simp [ends first rfl])]
      exact List.append_nil digits

theorem bind_eq {scan : Scan α} {next : α → Scan β} {before after : List Char} {value : α}
    (reads : scan before = some (value, after)) : (scan >>= next) before = next value after := by
  change (scan before).bind (fun result => next result.1 result.2) = _
  rw [reads]
  rfl

/-- A number of at most so many digits is read in full where no more digits follow, or where it has just
as many. -/
theorem number_digitsOf {least most width value : Nat} {rest : List Char} (positive : 0 < width)
    (fits : value < 10 ^ width) (enough : least ≤ width) (room : width ≤ most)
    (ends : width = most ∨ NoDigit rest) :
    number least most (digitsOf width value ++ rest) = some (value, rest) := by
  have length := length_digitsOf positive fits
  have taken : ((digitsOf width value ++ rest).take most).takeWhile Char.isDigit =
      digitsOf width value := by
    rw [List.take_append, List.take_of_length_le (by omega)]
    apply takeWhile_digits fun digit inside => isDigit_of_mem_digitsOf inside
    rcases ends with full | ends
    · rw [length, full, Nat.sub_self, List.take_zero]
      intro first impossible
      cases impossible
    · intro first inside
      apply ends
      rw [List.head?_take] at inside
      split at inside
      · cases inside
      · exact inside
  have value := valueOf_digitsOf width value
  unfold valueOf at value
  unfold number
  simp only [taken, value, length]
  rw [if_neg (by omega), List.drop_left' length]

theorem digits_digitsOf {width value : Nat} {rest : List Char} (ends : NoDigit rest) :
    digits (digitsOf width value ++ rest) = some (value, rest) := by
  have taken : (digitsOf width value ++ rest).takeWhile Char.isDigit = digitsOf width value :=
    takeWhile_digits (fun digit inside => isDigit_of_mem_digitsOf inside) ends
  have some := List.length_pos_iff.mpr (digitsOf_ne_nil width value)
  have value := valueOf_digitsOf width value
  unfold valueOf at value
  unfold digits number
  simp only [List.take_length, taken, value]
  rw [if_neg (by omega), List.drop_left]

theorem character_cons (expected : Char) (rest : List Char) :
    character expected (expected :: rest) = some ((), rest) :=
  if_pos rfl

/-- Nothing is skipped in front of a character that is not blank. -/
theorem blanks_cons {first : Char} (visible : isBlank first = false) (rest : List Char) :
    blanks (first :: rest) = some ((), first :: rest) := by
  unfold blanks trimStart
  rw [List.dropWhile_cons_of_neg (by simp [visible])]

end Scan

theorem isBlank_digit {digit : Char} (proper : digit.isDigit = true) : isBlank digit = false := by
  simp only [Char.isDigit, Bool.and_eq_true, decide_eq_true_eq, ge_iff_le, UInt32.le_iff_toNat_le]
    at proper
  have low : 48 ≤ digit.toNat := proper.1
  have high : digit.toNat ≤ 57 := proper.2
  simp only [isBlank, Bool.or_eq_false_iff, Bool.and_eq_false_iff, decide_eq_false_iff_not]
  omega

theorem trimStart_digitsOf (width value : Nat) (rest : List Char) :
    trimStart (digitsOf width value ++ rest) = digitsOf width value ++ rest := by
  cases digits : digitsOf width value with
  | nil => exact absurd digits (digitsOf_ne_nil width value)
  | cons first further =>
      have inside : first ∈ digitsOf width value := digits ▸ .head _
      have visible := isBlank_digit (isDigit_of_mem_digitsOf inside)
      exact List.dropWhile_cons_of_neg (by simp [visible])

theorem liberalPair_digitsOf {value : Nat} (fits : value < 100) (rest : List Char) :
    liberalPair (digitsOf 2 value ++ rest) = some (value, rest) := by
  have blanks : Scan.blanks (digitsOf 2 value ++ rest) = some ((), digitsOf 2 value ++ rest) :=
    congrArg (fun characters => some ((), characters)) (trimStart_digitsOf 2 value rest)
  refine (Scan.bind_eq blanks).trans ?_
  exact Scan.number_digitsOf (by decide) fits (by decide) (Nat.le_refl 2) (.inl rfl)

/-! ## The parts of a text -/

/-- A year without a sign has up to four digits. -/
theorem liberalYear_unsigned {first : Char} {rest after : List Char} {year : Nat}
    (proper : first.isDigit = true) (reads : Scan.number 1 4 (first :: rest) = some (year, after)) :
    liberalYear (first :: rest) = some ((year : Int), after) := by
  have visible := isBlank_digit proper
  have trimmed : trimStart (first :: rest) = first :: rest :=
    List.dropWhile_cons_of_neg (by simp [visible])
  unfold liberalYear
  rw [trimmed]
  split
  · next minus =>
    rw [(List.cons.inj minus).1] at proper
    cases proper
  · next plus =>
    rw [(List.cons.inj plus).1] at proper
    cases proper
  · exact Scan.bind_eq reads

/-- A year is read back up to the hyphen after it. -/
theorem liberalYear_yearText (year : Int) (rest : List Char) :
    liberalYear ((yearText year).toList ++ '-' :: rest) = some (year, '-' :: rest) := by
  have hyphen : Scan.NoDigit ('-' :: rest) := by
    rintro _ ⟨⟩
    rfl
  unfold yearText
  split
  · next plain =>
    have fits : year.toNat < 10 ^ 4 := by omega
    have reads : Scan.number 1 4 (digitsOf 4 year.toNat ++ '-' :: rest) =
        some (year.toNat, '-' :: rest) :=
      Scan.number_digitsOf (by decide) fits (by decide) (Nat.le_refl 4) (.inl rfl)
    rw [toList_padded]
    cases digits : digitsOf 4 year.toNat with
    | nil => exact absurd digits (digitsOf_ne_nil 4 year.toNat)
    | cons first further =>
        have inside : first ∈ digitsOf 4 year.toNat := digits ▸ .head _
        rw [digits] at reads
        rw [List.cons_append] at reads ⊢
        rw [liberalYear_unsigned (isDigit_of_mem_digitsOf inside) reads, Int.toNat_of_nonneg plain.1]
  · have reads : Scan.digits (digitsOf 4 year.natAbs ++ '-' :: rest) = some (year.natAbs, '-' :: rest) :=
      Scan.digits_digitsOf hyphen
    rw [String.toList_append, toList_padded]
    split
    · next negative =>
      have value : -((year.natAbs : Nat) : Int) = year := by omega
      refine (Scan.bind_eq reads).trans ?_
      rw [value]
      rfl
    · next positive =>
      have value : ((year.natAbs : Nat) : Int) = year := by omega
      refine (Scan.bind_eq reads).trans ?_
      rw [value]
      rfl

/-- A point and some digits are a fraction of a second. -/
theorem fraction_digitsOf {width value : Nat} {rest : List Char} (positive : 0 < width)
    (short : width ≤ 9) (fits : value < 10 ^ width) (ends : Scan.NoDigit rest) :
    Scan.fraction ('.' :: (digitsOf width value ++ rest)) = some (value * 10 ^ (9 - width), rest) := by
  have taken : (digitsOf width value ++ rest).takeWhile Char.isDigit = digitsOf width value :=
    Scan.takeWhile_digits (fun digit inside => isDigit_of_mem_digitsOf inside) ends
  have length := length_digitsOf positive fits
  have present : (digitsOf width value).isEmpty = false :=
    List.isEmpty_eq_false_iff.mpr (digitsOf_ne_nil width value)
  have all : (digitsOf width value).take 9 = digitsOf width value :=
    List.take_of_length_le (by omega)
  have read := valueOf_digitsOf width value
  unfold valueOf at read
  unfold Scan.fraction
  simp only [taken, present, all, read, length, List.drop_left' length]
  rfl

theorem fraction_fractionText (instant : Instant) (rest : List Char) :
    Scan.fraction (instant.fractionText.toList ++ 'Z' :: rest) =
      some (instant.nano % 1000000000, 'Z' :: rest) := by
  have marker : Scan.NoDigit ('Z' :: rest) := by
    rintro _ ⟨⟩
    rfl
  unfold fractionText
  generalize bounded : instant.nano % 1000000000 = nano
  have bound : nano < 1000000000 := by omega
  dsimp only
  split
  · next whole =>
    rw [whole]
    rfl
  · split
    · next millis =>
      have value : nano / 1000000 * 10 ^ (9 - 3) = nano := by omega
      rw [String.toList_append, toList_padded]
      refine (fraction_digitsOf (by decide) (by decide) (by omega) marker).trans ?_
      rw [value]
    · split
      · next micros =>
        have value : nano / 1000 * 10 ^ (9 - 6) = nano := by omega
        rw [String.toList_append, toList_padded]
        refine (fraction_digitsOf (by decide) (by decide) (by omega) marker).trans ?_
        rw [value]
      · rw [String.toList_append, toList_padded]
        refine (fraction_digitsOf (by decide) (by decide) (by omega) marker).trans ?_
        rw [Nat.sub_self, Nat.pow_zero, Nat.mul_one]

/-! ## Texts of instants -/

theorem date_supported (instant : Instant) :
    -262143 ≤ instant.date.year ∧ instant.date.year ≤ 262142 := by
  have supported := instant.supported
  simp only [isSupported, firstSecond, lastSecond, Bool.and_eq_true] at supported
  have ⟨⟨low, high⟩, _⟩ := supported
  have low := of_decide_eq_true low
  have high := of_decide_eq_true high
  apply Date.ofDays_year
  · omega
  · omega

theorem secondOfDay_lt (instant : Instant) : instant.secondOfDay < 86400 := by
  unfold secondOfDay
  omega

theorem second_eq (instant : Instant) :
    instant.second = instant.date.toDays * 86400 + instant.secondOfDay := by
  rw [date, Date.toDays_ofDays]
  unfold secondOfDay
  omega

/-- Only the last second of a minute runs on, and no longer than for one more second. -/
theorem nano_supported (instant : Instant) : instant.nano < 1000000000 ∨
    instant.nano < 2000000000 ∧ instant.secondOfDay % 60 = 59 := by
  have supported := instant.supported
  simp only [isSupported, Bool.and_eq_true, Bool.or_eq_true] at supported
  have ⟨_, fraction⟩ := supported
  rcases fraction with usual | ⟨bounded, last⟩
  · exact .inl (of_decide_eq_true usual)
  · have last := of_decide_eq_true last
    have whole := instant.second_eq
    exact .inr ⟨of_decide_eq_true bounded, by omega⟩

/-- The second of the minute as it is written: the one that runs on is second 60. -/
def writtenSecond (instant : Instant) : Nat :=
  instant.secondOfDay % 60 + if instant.nano ≥ 1000000000 then 1 else 0

theorem of?_self (instant : Instant) : of? instant.second instant.nano = some instant :=
  dif_pos instant.supported

/-- An instant is made again from the parts that are written of it. -/
theorem ofParts?_written (instant : Instant) :
    ofParts? instant.date (instant.secondOfDay / 3600) (instant.secondOfDay / 60 % 60)
      instant.writtenSecond (instant.nano % 1000000000) 0 = some instant := by
  have valid : instant.date.isValid = true := Date.isValid_ofDays _
  have within := instant.secondOfDay_lt
  have whole := instant.second_eq
  have ⟨first, last⟩ := instant.date_supported
  have restored : (if instant.writtenSecond = 60 then (59, instant.nano % 1000000000 + 1000000000)
      else (instant.writtenSecond, instant.nano % 1000000000)) =
      (instant.secondOfDay % 60, instant.nano) := by
    unfold writtenSecond
    rcases instant.nano_supported with usual | ⟨bounded, onwards⟩
    · have single : ¬ instant.nano ≥ 1000000000 := by omega
      rw [if_neg single, if_neg (by omega), Nat.mod_eq_of_lt usual, Nat.add_zero]
    · by_cases runs : instant.nano ≥ 1000000000
      · have nano : instant.nano % 1000000000 + 1000000000 = instant.nano := by omega
        rw [if_pos runs, onwards, if_pos rfl, nano]
      · have nano : instant.nano % 1000000000 = instant.nano := by omega
        rw [if_neg runs, if_neg (by omega), nano, Nat.add_zero]
  unfold ofParts?
  rw [restored]
  dsimp only
  rw [if_pos ⟨valid, by omega, by omega, by omega, by decide, by decide, first, last⟩]
  have same : instant.date.toDays * 86400 +
      ((instant.secondOfDay / 3600 * 3600 + instant.secondOfDay / 60 % 60 * 60 +
        instant.secondOfDay % 60 : Nat) : Int) - 0 = instant.second := by
    omega
  rw [same, of?_self]

theorem toList_rfc3339 (instant : Instant) : instant.rfc3339.toList =
    (yearText instant.date.year).toList ++ '-' :: (digitsOf 2 instant.date.month ++
      '-' :: (digitsOf 2 instant.date.day ++ 'T' :: (digitsOf 2 (instant.secondOfDay / 3600) ++
        ':' :: (digitsOf 2 (instant.secondOfDay / 60 % 60) ++
          ':' :: (digitsOf 2 instant.writtenSecond ++
            (instant.fractionText.toList ++ ['Z'])))))) := by
  simp [rfc3339, dateText, timeText, writtenSecond]

theorem liberal_rfc3339 (instant : Instant) :
    liberal instant.rfc3339.toList = some (some instant, []) := by
  have ⟨month, day⟩ : instant.date.month < 100 ∧ instant.date.day < 100 :=
    Date.isValid_fits (Date.isValid_ofDays _)
  have within := instant.secondOfDay_lt
  have second : instant.writtenSecond < 100 := by
    unfold writtenSecond
    split <;> omega
  have separator (rest : List Char) : Scan.dateEnd ('T' :: rest) = some ((), rest) := rfl
  rw [toList_rfc3339]
  refine (Scan.bind_eq (liberalYear_yearText _ _)).trans ?_
  refine (Scan.bind_eq (Scan.blanks_cons rfl _)).trans ?_
  refine (Scan.bind_eq (Scan.character_cons '-' _)).trans ?_
  refine (Scan.bind_eq (liberalPair_digitsOf month _)).trans ?_
  refine (Scan.bind_eq (Scan.blanks_cons rfl _)).trans ?_
  refine (Scan.bind_eq (Scan.character_cons '-' _)).trans ?_
  refine (Scan.bind_eq (liberalPair_digitsOf day _)).trans ?_
  refine (Scan.bind_eq (separator _)).trans ?_
  refine (Scan.bind_eq (liberalPair_digitsOf (by omega) _)).trans ?_
  refine (Scan.bind_eq (Scan.blanks_cons rfl _)).trans ?_
  refine (Scan.bind_eq (Scan.character_cons ':' _)).trans ?_
  refine (Scan.bind_eq (liberalPair_digitsOf (by omega) _)).trans ?_
  refine (Scan.bind_eq (Scan.blanks_cons rfl _)).trans ?_
  refine (Scan.bind_eq (Scan.character_cons ':' _)).trans ?_
  refine (Scan.bind_eq (liberalPair_digitsOf second _)).trans ?_
  refine (Scan.bind_eq (instant.fraction_fractionText [])).trans ?_
  refine (Scan.bind_eq (Scan.blanks_cons rfl _)).trans ?_
  have offset : liberal.liberalOffset ['Z'] = some (0, []) := rfl
  have ends : Scan.blanks [] = some ((), []) := rfl
  refine (Scan.bind_eq offset).trans ((Scan.bind_eq ends).trans ?_)
  exact congrArg (fun found => some (found, [])) instant.ofParts?_written

/-- The text of an instant reads as that instant. -/
theorem ofText?_rfc3339 (instant : Instant) : ofText? instant.rfc3339 = some instant := by
  have read : liberal.run instant.rfc3339.toList = some (some instant, []) := instant.liberal_rfc3339
  unfold ofText? scanAll
  rw [read]

end Instant

namespace Codec

/-- What is written through another type is read back if that type is read back and can be gone back from. -/
theorem through_decode_encode {α β : Type} {inner : Codec β} {write : α → β} {read : β → Decoded α}
    {value : α} (faithful : inner.decode (inner.encode (write value)) = .ok (write value))
    (back : read (write value) = .ok value) :
    (inner.through write read).decode ((inner.through write read).encode value) = .ok value := by
  change (inner.decode (inner.encode (write value)) >>= read) = _
  rw [faithful]
  exact back

@[simp] theorem instant_decode_encode (moment : Instant) :
    instant.decode (instant.encode moment) = .ok moment := by
  apply through_decode_encode rfl
  rw [readInstant, Instant.ofText?_rfc3339]

end Codec

end ProxyOperator
