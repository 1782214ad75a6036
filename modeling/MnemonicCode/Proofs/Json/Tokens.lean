import MnemonicCode.Proofs.Json.Grammar
import Mathlib

/-!
# Reading tokens

The readers of gaps, strings and numbers take what the grammar spells and leave the rest.
For gaps and strings the end shows in the text itself. A number has no end of its own: it
is taken as a whole when what follows may follow a value (`Closes`), and what is made of
it does not depend on what follows (`local_readNumber`). So the readers of its parts
are all put into one form (`Local`), part by part from its end to its beginning.
-/

set_option autoImplicit false

namespace MnemonicCode.Json

variable {text rest gap digits : List Char} {c : Char}

/-! ## Gaps -/

theorem isGap_iff : isGap c = true ↔ c = ' ' ∨ c = '\t' ∨ c = '\n' ∨ c = '\r' := by
  simp only [isGap, Bool.or_eq_true, beq_iff_eq, or_assoc]

/-- A gap is skipped together with what can be skipped after it. -/
theorem skipGap_append (blank : Gap gap) (rest : List Char) :
    skipGap (gap ++ rest) = skipGap rest :=
  List.dropWhile_append_of_pos fun c member => isGap_iff.mpr (blank c member)

/-- Nothing is skipped before a character of a token. -/
theorem skipGap_cons (solid : isGap c = false) (rest : List Char) :
    skipGap (c :: rest) = c :: rest :=
  List.dropWhile_cons_of_neg (by simp [solid])

theorem skipGap_gap (blank : Gap gap) : skipGap gap = [] := by
  have whole := skipGap_append blank []
  rwa [List.append_nil] at whole

/-- A value is read after a gap as it is without the gap. -/
theorem readValue_gap {bound level : Nat} (blank : Gap gap) (text : List Char) :
    readValue bound level (gap ++ text) = readValue bound level text := by
  cases bound with
  | zero => rfl
  | succ bound => rw [readValue, readValue, skipGap_append blank]

/-- What may follow a value: nothing, a gap, a comma or a closing bracket. -/
def Closes (rest : List Char) : Prop :=
  ∀ c ∈ rest.head?, isGap c = true ∨ c = ',' ∨ c = ']' ∨ c = '}'

theorem closes_nil : Closes [] := nofun

/-- After a gap there may follow what may follow a value. -/
theorem closes_append (blank : Gap gap) (closes : Closes rest) : Closes (gap ++ rest) := by
  cases gap with
  | nil => exact closes
  | cons c more =>
    rintro _ ⟨⟩
    exact .inl (isGap_iff.mpr (blank c List.mem_cons_self))

/-! ## Strings -/

theorem hexValue?_digitChar : ∀ value < 16,
    hexValue? value.digitChar = some value ∧ hexValue? value.digitChar.toUpper = some value := by
  decide

theorem hexValue?_of_spells {value : Nat} (spelled : SpellsHexDigit c value) :
    hexValue? c = some value := by
  obtain ⟨small, rfl | rfl⟩ := spelled
  · exact (hexValue?_digitChar value small).1
  · exact (hexValue?_digitChar value small).2

/-- Four digits are read as the number that they spell. -/
theorem exists_hexUnit? {unit : Nat} (spelled : SpellsUnit text unit) :
    ∃ a b c d, text = [a, b, c, d] ∧ hexUnit? a b c d = some unit := by
  obtain ⟨first, second, third, fourth⟩ := spelled
  refine ⟨_, _, _, _, rfl, ?_⟩
  rw [hexUnit?, hexValue?_of_spells first, hexValue?_of_spells second, hexValue?_of_spells third,
    hexValue?_of_spells fourth]
  rfl

theorem shortEscape?_of_listed {letter : Char} (listed : (letter, c) ∈ shortEscapes) :
    shortEscape? letter = some c ∧ letter ≠ 'u' := by
  simp only [shortEscapes, List.mem_cons, Prod.mk.injEq, List.not_mem_nil, or_false] at listed
  rcases listed with ⟨rfl, rfl⟩ | ⟨rfl, rfl⟩ | ⟨rfl, rfl⟩ | ⟨rfl, rfl⟩ | ⟨rfl, rfl⟩ | ⟨rfl, rfl⟩ |
    ⟨rfl, rfl⟩ | ⟨rfl, rfl⟩ <;> exact ⟨rfl, by decide⟩

/-- A code point is no half of a pair. -/
theorem not_half (c : Char) : isHighHalf c.toNat = false ∧ isLowHalf c.toNat = false := by
  have valid : c.toNat < 0xd800 ∨ 0xdfff < c.toNat ∧ c.toNat < 0x110000 := c.valid
  simp only [isHighHalf, isLowHalf, Bool.and_eq_false_iff, decide_eq_false_iff_not]
  omega

/-- The two halves of a pair are told apart and make its character. -/
theorem pairedChar_eq {high low : Nat} (smallHigh : high < 0x400) (smallLow : low < 0x400)
    (codePoint : c.toNat = 0x10000 + 0x400 * high + low) :
    isLowHalf (0xd800 + high) = false ∧ isHighHalf (0xd800 + high) = true ∧
      isLowHalf (0xdc00 + low) = true ∧ pairedChar (0xd800 + high) (0xdc00 + low) = c := by
  refine ⟨?_, ?_, ?_, ?_⟩
  · simp only [isLowHalf, Bool.and_eq_false_iff, decide_eq_false_iff_not]
    omega
  · simp only [isHighHalf, Bool.and_eq_true, decide_eq_true_eq]
    omega
  · simp only [isLowHalf, Bool.and_eq_true, decide_eq_true_eq]
    omega
  · rw [pairedChar, Nat.add_sub_cancel_left, Nat.add_sub_cancel_left, ← codePoint,
      Char.ofNat_toNat]

/-- A character is read in every spelling. -/
theorem readString_char (spelled : SpellsChar text c) (done rest : List Char) :
    readString done (text ++ rest) = readString (c :: done) rest := by
  cases spelled with
  | plain least noQuote noBackslash =>
    have visible : ¬ c < ' ' := fun below => absurd least (not_le.mpr below)
    rw [List.singleton_append, readString, if_neg visible]
    -- the equation for a plain character asks that no other one fits
    all_goals simp [noQuote, noBackslash]
  | short listed =>
    obtain ⟨known, other⟩ := shortEscape?_of_listed listed
    rw [List.cons_append, List.singleton_append, readString, known]
    all_goals simp [other]
  | unit spelled =>
    obtain ⟨first, second, third, fourth, rfl, value⟩ := exists_hexUnit? spelled
    obtain ⟨noHigh, noLow⟩ := not_half c
    simp only [List.cons_append, List.nil_append]
    rw [readString, value]
    simp only [noHigh, noLow, Bool.false_eq_true, if_false, Char.ofNat_toNat]
  | pair spelledHigh spelledLow smallHigh smallLow codePoint =>
    obtain ⟨_, _, _, _, rfl, highValue⟩ := exists_hexUnit? spelledHigh
    obtain ⟨_, _, _, _, rfl, lowValue⟩ := exists_hexUnit? spelledLow
    obtain ⟨notLow, high, low, made⟩ := pairedChar_eq smallHigh smallLow codePoint
    simp only [List.cons_append, List.nil_append]
    rw [readString, highValue]
    simp only [notLow, high, lowValue, low, made, Bool.false_eq_true, if_false, if_true]

theorem readString_chars {chars : List Char} (spelled : SpellsChars text chars)
    (done rest : List Char) :
    readString done (text ++ rest) = readString (chars.reverse ++ done) rest := by
  induction spelled generalizing done with
  | nil => rfl
  | cons spelled others ih =>
    rw [List.append_assoc, readString_char spelled, ih, List.reverse_cons, List.append_assoc,
      List.singleton_append]

/-- A string begins with a quotation mark and is read to the next one that is not
escaped. -/
theorem exists_readString {value : String} (spelled : SpellsString text value) :
    ∃ body, text = '"' :: body ∧ ∀ rest, readString [] (body ++ rest) = .ok (value, rest) := by
  obtain ⟨inside⟩ := spelled
  refine ⟨_, rfl, fun rest => ?_⟩
  rw [List.append_assoc, readString_chars inside, List.singleton_append, readString,
    List.append_nil, List.reverse_reverse, String.ofList_toList]

/-! ## Digits -/

/-- The text does not go on with a digit. -/
def NoDigit (rest : List Char) : Prop := ∀ c ∈ rest.head?, c.isDigit = false

theorem Closes.noDigit (closes : Closes rest) : NoDigit rest := by
  intro c first
  rcases closes c first with gap | rfl | rfl | rfl
  · rcases isGap_iff.mp gap with rfl | rfl | rfl | rfl <;> rfl
  all_goals rfl

/-- The letter of an exponent is no digit. -/
theorem IsExponent.noDigit (scaled : IsExponent text) (closes : Closes rest) :
    NoDigit (text ++ rest) := by
  cases scaled with
  | absent => exact closes.noDigit
  | unsigned marked decimal =>
    rintro _ ⟨⟩
    rcases marked with rfl | rfl <;> rfl
  | signed marked either decimal =>
    rintro _ ⟨⟩
    rcases marked with rfl | rfl <;> rfl

theorem IsFraction.noDigit {exponent : List Char} (fractional : IsFraction text)
    (scaled : IsExponent exponent) (closes : Closes rest) :
    NoDigit (text ++ exponent ++ rest) := by
  cases fractional with
  | absent => exact scaled.noDigit closes
  | places decimal =>
    rintro _ ⟨⟩
    rfl

/-- Digits are taken to the last one. -/
theorem takeWhile_digits (decimal : IsDigits digits) (ends : NoDigit rest) :
    (digits ++ rest).takeWhile Char.isDigit = digits ∧
      (digits ++ rest).dropWhile Char.isDigit = rest := by
  have taken : rest.takeWhile Char.isDigit = [] ∧ rest.dropWhile Char.isDigit = rest := by
    cases rest with
    | nil => exact ⟨rfl, rfl⟩
    | cons c more =>
      have other : ¬ c.isDigit = true := by simp [ends c rfl]
      exact ⟨List.takeWhile_cons_of_neg other, List.dropWhile_cons_of_neg other⟩
  rw [List.takeWhile_append_of_pos decimal.2, List.dropWhile_append_of_pos decimal.2, taken.1,
    taken.2, List.append_nil]
  exact ⟨rfl, rfl⟩

theorem IsDigits.isEmpty_eq (decimal : IsDigits digits) : digits.isEmpty = false :=
  List.isEmpty_eq_false_iff.mpr decimal.1

/-! ## Numbers -/

/-- The reader takes the text as a whole, and what it makes of it does not depend on what
follows, as long as this may follow a value. -/
def Local (read : List Char → Except Fault (Number × List Char)) (text : List Char) : Prop :=
  ∃ result : Except Fault Number, ∀ rest, Closes rest →
    read (text ++ rest) = result.map fun number => (number, rest)

section Parts

variable {negative : Bool} {before whole : Digits} {exponent : List Char}

/-- What an exponent makes of the digits before it. -/
def exponentResult (negative : Bool) (digits : Digits) (small : Bool) (exponent : List Char) :
    Except Fault Number := do
  (← digits.scaled small (exponentValue exponent)).real negative

theorem exponentResult_map (small : Bool) :
    (exponentResult negative before small digits).map (fun value => (value, rest)) = (do
      let scaled ← before.scaled small (exponentValue digits)
      return (← scaled.real negative, rest)) := by
  rw [exponentResult]
  cases before.scaled small (exponentValue digits) with
  | error fault => rfl
  | ok scaled =>
    change (scaled.real negative).map (fun value => (value, rest)) =
      (do return (← scaled.real negative, rest))
    cases scaled.real negative <;> rfl

theorem readExponent_signed {sign : Char} (either : sign = '+' ∨ sign = '-')
    (decimal : IsDigits digits) (ends : NoDigit rest) :
    readExponent negative before (sign :: (digits ++ rest)) =
      (exponentResult negative before (sign == '-') digits).map fun value => (value, rest) := by
  obtain ⟨taken, left⟩ := takeWhile_digits decimal ends
  rw [exponentResult_map]
  rcases either with rfl | rfl
  all_goals
    simp only [readExponent, taken, left, decimal.isEmpty_eq, Bool.false_eq_true, if_false]
    rfl

/-- An exponent without a sign is read like one with a plus sign. -/
theorem readExponent_unsigned (decimal : IsDigits digits) (rest : List Char) :
    readExponent negative before (digits ++ rest) =
      readExponent negative before ('+' :: (digits ++ rest)) := by
  obtain ⟨nonempty, all⟩ := decimal
  cases digits with
  | nil => exact absurd rfl nonempty
  | cons digit more =>
    have decimal : digit.isDigit = true := all digit List.mem_cons_self
    rw [List.cons_append, readExponent.eq_def, readExponent.eq_def]
    split
    next same =>
      split at same
      · cases ‹digit :: (more ++ rest) = '+' :: _›
        exact absurd decimal (by decide)
      · cases ‹digit :: (more ++ rest) = '-' :: _›
        exact absurd decimal (by decide)
      · cases same
        rfl

/-- The exponent that stands after its letter is taken as a whole. -/
theorem exists_readExponent (negative : Bool) (scaled : IsExponent text) :
    text = [] ∨ ∃ letter tail, (letter = 'e' ∨ letter = 'E') ∧ text = letter :: tail ∧
      ∀ before, Local (readExponent negative before) tail := by
  cases scaled with
  | absent => exact .inl rfl
  | @unsigned letter digits marked decimal =>
    refine .inr ⟨letter, digits, marked, rfl, fun before => ?_⟩
    refine ⟨exponentResult negative before false digits, fun rest closes => ?_⟩
    rw [readExponent_unsigned decimal, readExponent_signed (.inl rfl) decimal closes.noDigit]
    rfl
  | @signed letter sign digits marked either decimal =>
    refine .inr ⟨letter, sign :: digits, marked, rfl, fun before => ?_⟩
    refine ⟨exponentResult negative before (sign == '-') digits, fun rest closes => ?_⟩
    rw [List.cons_append, readExponent_signed either decimal closes.noDigit]

/-- The number that digits make without fraction and exponent. -/
def wholeResult (negative : Bool) (digits : Digits) : Except Fault Number :=
  match digits.integer? negative with
  | some integer => .ok integer
  | none => digits.real negative

/-- Nothing that may follow a value goes on with the number. -/
theorem readTail_closes (closes : Closes rest) :
    readTail negative whole rest =
      (wholeResult negative whole).map fun value => (value, rest) := by
  rw [wholeResult, readTail.eq_def]
  split
  · exact absurd (closes '.' rfl) (by decide)
  · exact absurd (closes 'e' rfl) (by decide)
  · exact absurd (closes 'E' rfl) (by decide)
  · cases whole.integer? negative <;> rfl

/-- The digits after those of the fraction. -/
def afterPoint (whole : Digits) (places : List Char) : Digits :=
  places.foldl Digits.fraction { whole with full := false }

theorem readTail_fraction (decimal : IsDigits digits) (closes : Closes rest) :
    readTail negative whole ('.' :: (digits ++ rest)) =
      ((afterPoint whole digits).real negative).map fun value => (value, rest) := by
  obtain ⟨taken, left⟩ := takeWhile_digits decimal closes.noDigit
  rw [readTail, taken, left]
  simp only [decimal.isEmpty_eq, Bool.false_eq_true, if_false]
  split
  · exact absurd (closes 'e' rfl) (by decide)
  · exact absurd (closes 'E' rfl) (by decide)
  · rfl

theorem readTail_fraction_exponent {letter : Char} (marked : letter = 'e' ∨ letter = 'E')
    (decimal : IsDigits digits) (rest : List Char) :
    readTail negative whole ('.' :: (digits ++ letter :: rest)) =
      readExponent negative (afterPoint whole digits) rest := by
  have ends : NoDigit (letter :: rest) := by
    rintro _ ⟨⟩
    rcases marked with rfl | rfl <;> rfl
  obtain ⟨taken, left⟩ := takeWhile_digits decimal ends
  rw [readTail, taken, left]
  simp only [decimal.isEmpty_eq, Bool.false_eq_true, if_false]
  rcases marked with rfl | rfl <;> rfl

theorem readTail_exponent {letter : Char} (marked : letter = 'e' ∨ letter = 'E')
    (rest : List Char) :
    readTail negative whole (letter :: rest) = readExponent negative whole rest := by
  rcases marked with rfl | rfl <;> rfl

/-- Fraction and exponent are taken as a whole. -/
theorem local_readTail (negative : Bool) (whole : Digits) (fractional : IsFraction text)
    (scaled : IsExponent exponent) :
    Local (readTail negative whole) (text ++ exponent) := by
  rcases exists_readExponent negative scaled with
    rfl | ⟨letter, tail, marked, rfl, taken⟩
  · rw [List.append_nil]
    cases fractional with
    | absent => exact ⟨wholeResult negative whole, fun rest closes => readTail_closes closes⟩
    | @places digits decimal =>
      exact ⟨(afterPoint whole digits).real negative, fun rest closes =>
        readTail_fraction decimal closes⟩
  · cases fractional with
    | absent =>
      obtain ⟨result, same⟩ := taken whole
      refine ⟨result, fun rest closes => ?_⟩
      rw [← same rest closes, List.nil_append, List.cons_append, readTail_exponent marked]
    | @places digits decimal =>
      obtain ⟨result, same⟩ := taken (afterPoint whole digits)
      refine ⟨result, fun rest closes => ?_⟩
      rw [← same rest closes, List.cons_append, List.cons_append, List.append_assoc,
        List.cons_append, readTail_fraction_exponent marked decimal]

/-- The digits before the point are taken to the last one. -/
theorem readUnsigned_whole (text_isWhole : IsWhole text) (ends : NoDigit rest) :
    readUnsigned negative (text ++ rest) =
      readTail negative (text.foldl Digits.whole ⟨0, 0, false⟩) rest := by
  obtain ⟨decimal, zero⟩ := text_isWhole
  obtain ⟨taken, left⟩ := takeWhile_digits decimal ends
  obtain ⟨nonempty, all⟩ := decimal
  cases text with
  | nil => exact absurd rfl nonempty
  | cons digit more =>
    have decimal : digit.isDigit = true := all digit List.mem_cons_self
    by_cases isZero : digit = '0'
    · subst isZero
      cases zero rfl
      have alone : ¬ rest.head?.any Char.isDigit = true := by
        rw [Option.any_eq_true]
        rintro ⟨c, first, isDigit⟩
        simp [ends c first] at isDigit
      rw [List.singleton_append, readUnsigned, if_neg alone]
      rfl
    · rw [List.cons_append] at taken left ⊢
      rw [readUnsigned, if_pos decimal, taken, left]
      exact isZero

end Parts

theorem readNumber_whole (text_isWhole : IsWhole text) (rest : List Char) :
    readNumber (text ++ rest) = readUnsigned false (text ++ rest) := by
  obtain ⟨⟨nonempty, all⟩, -⟩ := text_isWhole
  cases text with
  | nil => exact absurd rfl nonempty
  | cons digit more =>
    have decimal : digit.isDigit = true := all digit List.mem_cons_self
    rw [List.cons_append, readNumber.eq_def]
    split
    · cases ‹digit :: (more ++ rest) = '-' :: _›
      exact absurd decimal (by decide)
    · rfl

/-- **A literal is taken as a whole**, whatever follows it. -/
theorem local_readNumber (literal : IsLiteral text) : Local readNumber text := by
  obtain ⟨signed, whole_isWhole, fractional, scaled⟩ := literal
  cases signed with
  | absent =>
    obtain ⟨result, same⟩ := local_readTail false _ fractional scaled
    refine ⟨result, fun rest closes => ?_⟩
    rw [List.nil_append, List.append_assoc, readNumber_whole whole_isWhole,
      readUnsigned_whole whole_isWhole (fractional.noDigit scaled closes), same rest closes]
  | minus =>
    obtain ⟨result, same⟩ := local_readTail true _ fractional scaled
    refine ⟨result, fun rest closes => ?_⟩
    rw [List.singleton_append, List.cons_append, List.append_assoc, readNumber,
      readUnsigned_whole whole_isWhole (fractional.noDigit scaled closes), same rest closes]

/-! ## Integers -/

theorem toDigits_step (value : Nat) : Nat.toDigits 10 value =
    if value < 10 then [value.digitChar]
    else Nat.toDigits 10 (value / 10) ++ [(value % 10).digitChar] :=
  Nat.toDigits_eq_if (by decide)

/-- Only zero is written with a zero in front. -/
theorem head?_toDigits {value : Nat} (positive : 0 < value) :
    (Nat.toDigits 10 value).head? ≠ some '0' := by
  induction value using Nat.strongRecOn with
  | ind value ih =>
    rw [toDigits_step]
    split
    · next small =>
      intro first
      have code := congrArg Char.toNat (Option.some.inj first)
      rw [Nat.toNat_digitChar_of_lt_ten small] at code
      change 48 + value = 48 at code
      omega
    · next large =>
      rw [List.head?_append_of_ne_nil _ Nat.toDigits_ne_nil]
      exact ih (value / 10) (by omega) (by omega)

theorem isWhole_toDigits (value : Nat) : IsWhole (Nat.toDigits 10 value) := by
  refine ⟨⟨Nat.toDigits_ne_nil, fun c member => ?_⟩, fun first => ?_⟩
  · exact Nat.isDigit_of_mem_toDigits (by omega) (by omega) member
  · rcases Nat.eq_zero_or_pos value with rfl | positive
    · rfl
    · exact absurd first (head?_toDigits positive)

/-- Digits that fit 64 bits are taken up as the number that they write. -/
theorem foldl_toDigits {value : Nat} (small : value < wordLimit) :
    (Nat.toDigits 10 value).foldl Digits.whole ⟨0, 0, false⟩ = ⟨value, 0, false⟩ := by
  have step : ∀ before digit, digit < 10 → 10 * before + digit < wordLimit →
      Digits.whole ⟨before, 0, false⟩ digit.digitChar = ⟨10 * before + digit, 0, false⟩ := by
    intro before digit decimal fits
    have known : digitValue digit.digitChar = digit :=
      Nat.toNat_digitChar_sub_48_of_lt_ten decimal
    simp [Digits.whole, known, fits]
  induction value using Nat.strongRecOn with
  | ind value ih =>
    rw [toDigits_step]
    split
    · next single =>
      simpa using step 0 value single (by omega)
    · have parts : 10 * (value / 10) + value % 10 = value := Nat.div_add_mod value 10
      rw [List.foldl_append, ih (value / 10) (by omega) (by omega), List.foldl_cons,
        List.foldl_nil, step (value / 10) (value % 10) (by omega) (by omega), parts]

/-- **A number is taken as a whole** and is the one that the grammar says. -/
theorem readNumber_of_spells {number : Number} (spelled : SpellsNumber text number)
    (closes : Closes rest) : readNumber (text ++ rest) = .ok (number, rest) := by
  cases spelled with
  | @natural value small =>
    rw [readNumber_whole (isWhole_toDigits value), readUnsigned_whole (isWhole_toDigits value)
      closes.noDigit, foldl_toDigits small, readTail_closes closes]
    rfl
  | @negative magnitude positive small =>
    have fits : magnitude < wordLimit := by
      rw [wordLimit]
      omega
    have half : magnitude ≤ wordLimit / 2 := small
    have integer : Digits.integer? ⟨magnitude, 0, false⟩ true = some (.negative magnitude) := by
      simp [Digits.integer?, positive, half]
    rw [List.cons_append, readNumber, readUnsigned_whole (isWhole_toDigits magnitude)
      closes.noDigit, foldl_toDigits fits, readTail_closes closes, wholeResult, integer]
    rfl
  | real literal rounded =>
    obtain ⟨result, same⟩ := local_readNumber literal
    have alone := same [] closes_nil
    rw [List.append_nil, rounded] at alone
    rw [same rest closes]
    cases result with
    | error fault => cases alone
    | ok value =>
      cases alone
      rfl

/-- A number begins with a digit or with a minus sign. -/
theorem exists_head_of_spellsNumber {number : Number} (spelled : SpellsNumber text number) :
    ∃ c more, text = c :: more ∧ (c = '-' ∨ c.isDigit = true) := by
  have whole : ∀ digits rest, IsWhole digits →
      ∃ c more, digits ++ rest = c :: more ∧ (c = '-' ∨ c.isDigit = true) := by
    rintro (_ | ⟨digit, more⟩) rest ⟨⟨nonempty, all⟩, -⟩
    · exact absurd rfl nonempty
    · exact ⟨digit, more ++ rest, rfl, .inr (all digit List.mem_cons_self)⟩
  cases spelled with
  | @natural value small =>
    have begun := whole _ [] (isWhole_toDigits value)
    rwa [List.append_nil] at begun
  | negative positive small => exact ⟨_, _, rfl, .inl rfl⟩
  | real literal rounded =>
    obtain ⟨signed, whole_isWhole, fractional, scaled⟩ := literal
    cases signed with
    | absent =>
      rw [List.nil_append]
      exact whole _ _ whole_isWhole
    | minus => exact ⟨_, _, rfl, .inl rfl⟩

end MnemonicCode.Json
