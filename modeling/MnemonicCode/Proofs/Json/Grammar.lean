import MnemonicCode.Json.Reader
import Mathlib

/-!
# The grammar of JSON

The grammar is a relation between texts and values (`Spells`). It is stated without the
reader, except for one point: the double of a number that is no integer of 64 bits is the
one to which the reader rounds the literal when it stands alone.

A value is spelled without the gaps around it. Gaps belong to the containers, which may
have them around every token, and to the text as a whole (`SpellsDocument`). The items of
an array and the members of an object are spelled with the bracket that closes them, so a
derivation has the shape of the text from left to right.
-/

set_option autoImplicit false

namespace MnemonicCode.Json

/-! ## Gaps -/

/-- Characters that may stand between two tokens. -/
def Gap (text : List Char) : Prop :=
  ∀ c ∈ text, c = ' ' ∨ c = '\t' ∨ c = '\n' ∨ c = '\r'

theorem gap_nil : Gap [] := nofun

/-! ## Strings -/

/-- The letters of the short escapes with the characters that they stand for. -/
def shortEscapes : List (Char × Char) :=
  [('"', '"'), ('\\', '\\'), ('/', '/'), ('b', '\x08'), ('f', '\x0c'), ('n', '\n'),
    ('r', '\r'), ('t', '\t')]

/-- A hexadecimal digit, as a small or as a capital letter. -/
def SpellsHexDigit (c : Char) (value : Nat) : Prop :=
  value < 16 ∧ (c = value.digitChar ∨ c = value.digitChar.toUpper)

/-- Four hexadecimal digits. -/
inductive SpellsUnit : List Char → Nat → Prop where
  | digits {a b c d : Char} {first second third fourth : Nat}
      (spelledFirst : SpellsHexDigit a first) (spelledSecond : SpellsHexDigit b second)
      (spelledThird : SpellsHexDigit c third) (spelledFourth : SpellsHexDigit d fourth) :
      SpellsUnit [a, b, c, d] (4096 * first + 256 * second + 16 * third + fourth)

/-- A character in a string: as it is, by a short escape, by its code point in four
digits, or by the two halves of a pair. -/
inductive SpellsChar : List Char → Char → Prop where
  | plain {c : Char} (least : ' ' ≤ c) (noQuote : c ≠ '"') (noBackslash : c ≠ '\\') :
      SpellsChar [c] c
  | short {letter c : Char} (listed : (letter, c) ∈ shortEscapes) :
      SpellsChar ['\\', letter] c
  | unit {digits : List Char} {c : Char} (spelled : SpellsUnit digits c.toNat) :
      SpellsChar ('\\' :: 'u' :: digits) c
  | pair {left right : List Char} {high low : Nat} {c : Char}
      (spelledHigh : SpellsUnit left (0xd800 + high))
      (spelledLow : SpellsUnit right (0xdc00 + low))
      (smallHigh : high < 0x400) (smallLow : low < 0x400)
      (codePoint : c.toNat = 0x10000 + 0x400 * high + low) :
      SpellsChar ('\\' :: 'u' :: (left ++ '\\' :: 'u' :: right)) c

/-- Characters between the quotation marks. -/
inductive SpellsChars : List Char → List Char → Prop where
  | nil : SpellsChars [] []
  | cons {text more : List Char} {c : Char} {rest : List Char}
      (spelled : SpellsChar text c) (others : SpellsChars more rest) :
      SpellsChars (text ++ more) (c :: rest)

/-- A string with its quotation marks. -/
inductive SpellsString : List Char → String → Prop where
  | quoted {body : List Char} {value : String} (spelled : SpellsChars body value.toList) :
      SpellsString ('"' :: (body ++ ['"'])) value

/-! ## Numbers -/

/-- One or more decimal digits. -/
def IsDigits (text : List Char) : Prop := text ≠ [] ∧ ∀ c ∈ text, c.isDigit = true

/-- The digits before the point, of which a zero is the first only when it stands alone. -/
def IsWhole (text : List Char) : Prop :=
  IsDigits text ∧ (text.head? = some '0' → text = ['0'])

/-- The point and the digits after it, or nothing. -/
inductive IsFraction : List Char → Prop where
  | absent : IsFraction []
  | places {digits : List Char} (decimal : IsDigits digits) : IsFraction ('.' :: digits)

/-- The sign of a number. -/
inductive IsSign : List Char → Prop where
  | absent : IsSign []
  | minus : IsSign ['-']

/-- The letter, sign and digits of an exponent, or nothing. -/
inductive IsExponent : List Char → Prop where
  | absent : IsExponent []
  | unsigned {letter : Char} {digits : List Char} (marked : letter = 'e' ∨ letter = 'E')
      (decimal : IsDigits digits) : IsExponent (letter :: digits)
  | signed {letter sign : Char} {digits : List Char} (marked : letter = 'e' ∨ letter = 'E')
      (either : sign = '+' ∨ sign = '-') (decimal : IsDigits digits) :
      IsExponent (letter :: sign :: digits)

/-- The text of a number. -/
inductive IsLiteral : List Char → Prop where
  | parts {sign whole fraction exponent : List Char} (signed : IsSign sign)
      (whole_isWhole : IsWhole whole) (fractional : IsFraction fraction)
      (scaled : IsExponent exponent) :
      IsLiteral (sign ++ (whole ++ (fraction ++ exponent)))

/-- A number. An integer of 64 bits is spelled by its digits; every other literal stands
for the double to which it is rounded, if there is one. -/
inductive SpellsNumber : List Char → Number → Prop where
  | natural {value : Nat} (small : value < 2 ^ 64) :
      SpellsNumber (Nat.toDigits 10 value) (.natural value)
  | negative {magnitude : Nat} (positive : 0 < magnitude) (small : magnitude ≤ 2 ^ 63) :
      SpellsNumber ('-' :: Nat.toDigits 10 magnitude) (.negative magnitude)
  | real {text : List Char} {value : Float} (literal : IsLiteral text)
      (rounded : readNumber text = .ok (.real value, [])) :
      SpellsNumber text (.real value)

/-! ## Values -/

mutual

/-- A value without the gaps around it. -/
inductive Spells : List Char → Json → Prop where
  | null : Spells "null".toList .null
  | true : Spells "true".toList (.boolean Bool.true)
  | false : Spells "false".toList (.boolean Bool.false)
  | number {text : List Char} {value : Number} (spelled : SpellsNumber text value) :
      Spells text (.number value)
  | string {text : List Char} {value : String} (spelled : SpellsString text value) :
      Spells text (.string value)
  | emptyArray {gap : List Char} (blank : Gap gap) :
      Spells ('[' :: (gap ++ [']'])) (.array [] none)
  | array {gap text : List Char} {items : List Json} (blank : Gap gap)
      (spelled : SpellsItems text items) : Spells ('[' :: (gap ++ text)) (.array items none)
  | emptyObject {gap : List Char} (blank : Gap gap) :
      Spells ('{' :: (gap ++ ['}'])) (.object [] none)
  | object {gap text : List Char} {members : List (String × Json)} (blank : Gap gap)
      (spelled : SpellsMembers text members) :
      Spells ('{' :: (gap ++ text)) (.object members none)

/-- One or more items and the bracket after them. -/
inductive SpellsItems : List Char → List Json → Prop where
  | last {text gap : List Char} {item : Json} (spelled : Spells text item) (blank : Gap gap) :
      SpellsItems (text ++ (gap ++ [']'])) [item]
  | cons {text before after more : List Char} {item : Json} {items : List Json}
      (spelled : Spells text item) (blankBefore : Gap before) (blankAfter : Gap after)
      (others : SpellsItems more items) :
      SpellsItems (text ++ (before ++ ',' :: (after ++ more))) (item :: items)

/-- A member: its name, a colon and its value. -/
inductive SpellsMember : List Char → String × Json → Prop where
  | named {label before after text : List Char} {name : String} {value : Json}
      (spelledName : SpellsString label name) (blankBefore : Gap before) (blankAfter : Gap after)
      (spelled : Spells text value) :
      SpellsMember (label ++ (before ++ ':' :: (after ++ text))) (name, value)

/-- One or more members and the brace after them. -/
inductive SpellsMembers : List Char → List (String × Json) → Prop where
  | last {text gap : List Char} {member : String × Json} (spelled : SpellsMember text member)
      (blank : Gap gap) : SpellsMembers (text ++ (gap ++ ['}'])) [member]
  | cons {text before after more : List Char} {member : String × Json}
      {members : List (String × Json)} (spelled : SpellsMember text member)
      (blankBefore : Gap before) (blankAfter : Gap after) (others : SpellsMembers more members) :
      SpellsMembers (text ++ (before ++ ',' :: (after ++ more))) (member :: members)

end

/-- The text holds one value with gaps around it. -/
def SpellsDocument (text : String) (value : Json) : Prop :=
  ∃ before core after, text.toList = before ++ (core ++ after) ∧
    Gap before ∧ Spells core value ∧ Gap after

/-! ## Depth -/

mutual

/-- The number of containers around the innermost value, those included that are empty. -/
def depth : Json → Nat
  | .array items _ => itemsDepth items + 1
  | .object members _ => membersDepth members + 1
  | _ => 0

/-- The depth of the deepest item. -/
def itemsDepth : List Json → Nat
  | [] => 0
  | item :: rest => max (depth item) (itemsDepth rest)

/-- The depth of the deepest member. -/
def membersDepth : List (String × Json) → Nat
  | [] => 0
  | (_, value) :: rest => max (depth value) (membersDepth rest)

end

end MnemonicCode.Json
