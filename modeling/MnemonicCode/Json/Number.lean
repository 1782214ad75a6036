import MnemonicCode.Decimal.Shortest

/-!
# Numbers in JSON

A number without fraction and exponent that fits 64 bits is an integer. All
other numbers, `-0` among them, are doubles.

A double is made from at most 64 bits of leading digits and a power of ten: the
digits are rounded to a double, which is then multiplied or divided by the power.
A number too large for a double is refused.
-/

set_option autoImplicit false

namespace MnemonicCode

/-- A number as it is read from JSON: an integer that is not negative and below `2 ^ 64`, the
magnitude, at most `2 ^ 63`, of a negative integer, or a double. -/
inductive Json.Number where
  | natural (value : Nat)
  | negative (magnitude : Nat)
  | real (value : Float)

/-- Why a text is not JSON. -/
inductive Json.Fault where
  | endOfText
  | malformed
  deriving DecidableEq, Repr

/-- The text of the fault. -/
def Json.Fault.message : Json.Fault → String
  | endOfText => "the text ends too early"
  | malformed => "the text is not well-formed"

namespace Json

/-- The first number that 64 bits do not hold. -/
def wordLimit : Nat := 0x10000000000000000

/-- The greatest exponent that is told apart from greater ones. -/
def exponentLimit : Nat := 0x7fffffff

/-- The value of a decimal digit. -/
def digitValue (digit : Char) : Nat := digit.toNat - '0'.toNat

/-- Digits read so far: a number of 64 bits and the power of ten that it is
multiplied by. The number is full once a digit has been left out because it did not fit. -/
structure Digits where
  significand : Nat
  exponent : Int
  full : Bool

/-- Takes up a digit before the decimal point. Once one does not fit, it and all
that follow only count. -/
def Digits.whole (digits : Digits) (digit : Char) : Digits :=
  let extended := 10 * digits.significand + digitValue digit
  if !digits.full && extended < wordLimit then ⟨extended, digits.exponent, false⟩
  else ⟨digits.significand, digits.exponent + 1, true⟩

/-- Takes up a digit after the decimal point. Once one does not fit, it and all
that follow are left out. -/
def Digits.fraction (digits : Digits) (digit : Char) : Digits :=
  let extended := 10 * digits.significand + digitValue digit
  if !digits.full && extended < wordLimit then ⟨extended, digits.exponent - 1, false⟩
  else { digits with full := true }

/-- The power of ten as a double. -/
def powerOfTen (exponent : Nat) : Float := Float.ofScientific 1 false exponent

/-- The double of the digits, unless it is too large. Small numbers are divided
in two steps where one power of ten would be too large. -/
def Digits.double (digits : Digits) : Except Fault Float :=
  let significand := Float.ofNat digits.significand
  if 0 ≤ digits.exponent then
    if digits.significand = 0 then .ok 0
    else if 308 < digits.exponent then .error .malformed
    else
      let product := significand * powerOfTen digits.exponent.toNat
      if product.isInf then .error .malformed else .ok product
  else if -308 ≤ digits.exponent then
    .ok (significand / powerOfTen (-digits.exponent).toNat)
  else if -616 ≤ digits.exponent then
    .ok (significand / powerOfTen 308 / powerOfTen (-digits.exponent - 308).toNat)
  else
    .ok 0

/-- The exponent that digits spell, cut off above the limit. -/
def exponentValue (digits : List Char) : Nat :=
  digits.foldl (fun value digit => min (10 * value + digitValue digit) (exponentLimit + 1)) 0

/-- The digits after an exponent has been applied. An exponent above the limit
makes zero of a zero or of a small number, and refuses a large one. -/
def Digits.scaled (digits : Digits) (negative : Bool) (exponent : Nat) :
    Except Fault Digits :=
  if exponentLimit < exponent then
    if digits.significand ≠ 0 ∧ ¬negative then .error .malformed
    else .ok { digits with significand := 0 }
  else
    let shift : Int := if negative then -(exponent : Int) else exponent
    .ok { digits with exponent := digits.exponent + shift }

/-- The number of digits without fraction and exponent. -/
def Digits.integer? (digits : Digits) (negative : Bool) : Option Number :=
  if digits.full then none
  else if !negative then some (.natural digits.significand)
  else if 0 < digits.significand ∧ digits.significand ≤ wordLimit / 2 then
    some (.negative digits.significand)
  else none

/-- The double as a number with its sign. -/
def Digits.real (digits : Digits) (negative : Bool) : Except Fault Number :=
  digits.double.map fun magnitude => .real (if negative then -magnitude else magnitude)

/-- Whether the text may still become what is wanted when it goes on. -/
def faultAt (rest : List Char) : Fault := if rest.isEmpty then .endOfText else .malformed

/-- Reads the exponent that stands after its letter, and makes the number. -/
def readExponent (negative : Bool) (digits : Digits) (text : List Char) :
    Except Fault (Number × List Char) :=
  let (small, unsigned) :=
    match text with
    | '+' :: rest => (false, rest)
    | '-' :: rest => (true, rest)
    | _ => (false, text)
  let exponent := unsigned.takeWhile Char.isDigit
  let rest := unsigned.dropWhile Char.isDigit
  if exponent.isEmpty then .error (faultAt rest)
  else do
    let scaled ← digits.scaled small (exponentValue exponent)
    return (← scaled.real negative, rest)

/-- Reads what may follow the digits before the decimal point, and makes the
number. -/
def readTail (negative : Bool) (whole : Digits) (text : List Char) :
    Except Fault (Number × List Char) :=
  match text with
  | '.' :: rest =>
    let places := rest.takeWhile Char.isDigit
    let rest := rest.dropWhile Char.isDigit
    if places.isEmpty then .error (faultAt rest)
    else
      let digits := places.foldl Digits.fraction { whole with full := false }
      match rest with
      | 'e' :: exponent | 'E' :: exponent => readExponent negative digits exponent
      | _ => (digits.real negative).map fun number => (number, rest)
  | 'e' :: exponent | 'E' :: exponent => readExponent negative whole exponent
  | _ =>
    match whole.integer? negative with
    | some number => .ok (number, text)
    | none => (whole.real negative).map fun number => (number, text)

/-- Reads a number whose sign has been read. A number does not begin with a zero
and another digit. -/
def readUnsigned (negative : Bool) (text : List Char) : Except Fault (Number × List Char) :=
  match text with
  | [] => .error .endOfText
  | '0' :: rest =>
    if rest.head?.any Char.isDigit then .error .malformed
    else readTail negative ⟨0, 0, false⟩ rest
  | c :: _ =>
    if c.isDigit then
      readTail negative ((text.takeWhile Char.isDigit).foldl Digits.whole ⟨0, 0, false⟩)
        (text.dropWhile Char.isDigit)
    else .error .malformed

/-- Reads a number. -/
def readNumber (text : List Char) : Except Fault (Number × List Char) :=
  match text with
  | '-' :: rest => readUnsigned true rest
  | _ => readUnsigned false text

end Json

end MnemonicCode
