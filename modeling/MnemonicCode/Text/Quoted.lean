import MnemonicCode.Text.Unprintable

/-!
# Quoted text

Messages show a text between double quotes so that its ends and its unprintable
characters can be seen. A few characters have a letter of their own after a
backslash; all other unprintable characters are spelled by their number.
-/

set_option autoImplicit false

namespace MnemonicCode.Text

/-- The lower-case hexadecimal spelling of a number, without leading zeros. -/
def hexNumber (number : Nat) : List Char := Nat.toDigits 16 number

/-- A character as it stands in a quoted text. -/
def quotedChar (c : Char) : List Char :=
  if c == '\x00' then ['\\', '0']
  else if c == '\t' then ['\\', 't']
  else if c == '\r' then ['\\', 'r']
  else if c == '\n' then ['\\', 'n']
  else if c == '"' then ['\\', '"']
  else if c == '\\' then ['\\', '\\']
  else if isUnprintable c then ['\\', 'u', '{'] ++ hexNumber c.toNat ++ ['}']
  else [c]

/-- The text between double quotes. -/
def quoted (text : String) : String :=
  String.ofList ('"' :: (text.toList.flatMap quotedChar ++ ['"']))

end MnemonicCode.Text
