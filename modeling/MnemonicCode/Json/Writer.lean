import MnemonicCode.Json.Basic

/-!
# Writing JSON

A value is written on one line without gaps (`Json.compact`) or with a line for
every item and member, indented by two spaces for every container around it
(`Json.pretty`). In strings the quotation mark, the backslash and the characters
below the space are escaped. What could not be read has no text.
-/

set_option autoImplicit false

namespace MnemonicCode.Json

/-- A character as it stands in a string. -/
def escapedChar (c : Char) : List Char :=
  match c with
  | '"' => ['\\', '"']
  | '\\' => ['\\', '\\']
  | '\x08' => ['\\', 'b']
  | '\x0c' => ['\\', 'f']
  | '\n' => ['\\', 'n']
  | '\r' => ['\\', 'r']
  | '\t' => ['\\', 't']
  | c =>
    if c < ' ' then
      ['\\', 'u', '0', '0', (c.toNat / 16).digitChar, (c.toNat % 16).digitChar]
    else [c]

/-- The text of a string. -/
def stringText (value : String) : List Char :=
  '"' :: (value.toList.flatMap escapedChar ++ ['"'])

/-- The text of a number. -/
def Number.text : Number → List Char
  | natural value => Nat.toDigits 10 value
  | negative magnitude => '-' :: Nat.toDigits 10 magnitude
  | real value => (Decimal.text value).toList

/-- The text of a truth value. -/
def booleanText (value : Bool) : List Char := (if value then "true" else "false").toList

mutual

/-- The text of a value without gaps. -/
def compactText : Json → List Char
  | .null => "null".toList
  | .boolean value => booleanText value
  | .number value => value.text
  | .string value => stringText value
  | .array items _ => '[' :: compactItems items
  | .object members _ => '{' :: compactMembers members
  | .broken _ => []

/-- The items of an array and its end. -/
def compactItems : List Json → List Char
  | [] => [']']
  | [item] => compactText item ++ [']']
  | item :: rest => compactText item ++ ',' :: compactItems rest

/-- The members of an object and its end. -/
def compactMembers : List (String × Json) → List Char
  | [] => ['}']
  | [(name, value)] => stringText name ++ ':' :: compactText value ++ ['}']
  | (name, value) :: rest =>
    stringText name ++ ':' :: compactText value ++ ',' :: compactMembers rest

end

/-- The end of a line and the indentation of the next one. -/
def newLine (depth : Nat) : List Char := '\n' :: List.replicate (2 * depth) ' '

mutual

/-- The text of a value inside `depth` containers, with a line for every item
and member. -/
def prettyText (depth : Nat) : Json → List Char
  | .null => "null".toList
  | .boolean value => booleanText value
  | .number value => value.text
  | .string value => stringText value
  | .array [] _ => ['[', ']']
  | .array (item :: rest) _ =>
    '[' :: newLine (depth + 1) ++ prettyText (depth + 1) item ++ prettyItems depth rest
  | .object [] _ => ['{', '}']
  | .object ((name, value) :: rest) _ =>
    '{' :: newLine (depth + 1) ++ stringText name ++ ':' :: ' ' :: prettyText (depth + 1) value
      ++ prettyMembers depth rest
  | .broken _ => []

/-- The items after the first and the end of the array. -/
def prettyItems (depth : Nat) : List Json → List Char
  | [] => newLine depth ++ [']']
  | item :: rest =>
    ',' :: newLine (depth + 1) ++ prettyText (depth + 1) item ++ prettyItems depth rest

/-- The members after the first and the end of the object. -/
def prettyMembers (depth : Nat) : List (String × Json) → List Char
  | [] => newLine depth ++ ['}']
  | (name, value) :: rest =>
    ',' :: newLine (depth + 1) ++ stringText name ++ ':' :: ' ' :: prettyText (depth + 1) value
      ++ prettyMembers depth rest

end

/-- The value on one line. -/
def compact (value : Json) : String := String.ofList (compactText value)

/-- The value on as many lines as it has parts. -/
def pretty (value : Json) : String := String.ofList (prettyText 0 value)

end MnemonicCode.Json
