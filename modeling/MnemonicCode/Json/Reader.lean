import MnemonicCode.Json.Basic

/-!
# Reading JSON

One pass from left to right. Every reader takes the characters that are left and
gives what it has read with the characters after it, or the fault at which it
stopped. Blank characters are the space, the tab, the line feed and the carriage
return. Containers may be nested up to a limit; beyond it the text counts as
malformed.

The readers of values and containers recurse on a bound that `Json.read` takes
from the length of the text; every call reads a character or is followed by one
that does, so the bound is not reached.
-/

set_option autoImplicit false

namespace MnemonicCode.Json

/-- The number of containers that may be open at once. -/
def nestingLimit : Nat := 127

/-- Whether the character may stand between two tokens. -/
def isGap (c : Char) : Bool := c == ' ' || c == '\t' || c == '\n' || c == '\r'

/-- The text after the gap that it begins with. -/
def skipGap (text : List Char) : List Char := text.dropWhile isGap

/-- The value of a hexadecimal digit. -/
def hexValue? (c : Char) : Option Nat :=
  if c.isDigit then some (c.toNat - '0'.toNat)
  else if 'a' ≤ c ∧ c ≤ 'f' then some (c.toNat - 'a'.toNat + 10)
  else if 'A' ≤ c ∧ c ≤ 'F' then some (c.toNat - 'A'.toNat + 10)
  else none

/-- The number spelled by four hexadecimal digits. -/
def hexUnit? (a b c d : Char) : Option Nat := do
  return 4096 * (← hexValue? a) + 256 * (← hexValue? b) + 16 * (← hexValue? c) + (← hexValue? d)

/-- The fault of a text with fewer than four characters where four digits are
wanted: it ends too early unless its characters take four octets all the same. -/
def shortUnitFault (text : List Char) : Fault :=
  let size := text.foldl (fun total c => total + c.utf8Size) 0
  if size < 4 then .endOfText else .malformed

/-- Whether a number of sixteen bits is the first half of a pair. -/
def isHighHalf (unit : Nat) : Bool := 0xd800 ≤ unit && unit ≤ 0xdbff

/-- Whether a number of sixteen bits is the second half of a pair. -/
def isLowHalf (unit : Nat) : Bool := 0xdc00 ≤ unit && unit ≤ 0xdfff

/-- The character that two halves make. -/
def pairedChar (high low : Nat) : Char :=
  Char.ofNat (0x10000 + 1024 * (high - 0xd800) + (low - 0xdc00))

/-- The character for the letter of a short escape. -/
def shortEscape? (letter : Char) : Option Char :=
  match letter with
  | '"' => some '"'
  | '\\' => some '\\'
  | '/' => some '/'
  | 'b' => some '\x08'
  | 'f' => some '\x0c'
  | 'n' => some '\n'
  | 'r' => some '\r'
  | 't' => some '\t'
  | _ => none

/-- Reads the rest of a string whose characters so far come newest first. -/
def readString (done : List Char) : List Char → Except Fault (String × List Char)
  | [] => .error .endOfText
  | '"' :: rest => .ok (String.ofList done.reverse, rest)
  | '\\' :: 'u' :: a :: b :: c :: d :: rest =>
    match hexUnit? a b c d with
    | none => .error .malformed
    | some unit =>
      if isLowHalf unit then .error .malformed
      else if isHighHalf unit then
        match rest with
        | '\\' :: 'u' :: a :: b :: c :: d :: rest =>
          match hexUnit? a b c d with
          | none => .error .malformed
          | some low =>
            if isLowHalf low then readString (pairedChar unit low :: done) rest
            else .error .malformed
        | '\\' :: 'u' :: few => .error (shortUnitFault few)
        | [] | ['\\'] => .error .endOfText
        | _ => .error .malformed
      else readString (Char.ofNat unit :: done) rest
  | '\\' :: 'u' :: few => .error (shortUnitFault few)
  | ['\\'] => .error .endOfText
  | '\\' :: letter :: rest =>
    match shortEscape? letter with
    | some c => readString (c :: done) rest
    | none => .error .malformed
  | c :: rest => if c < ' ' then .error .malformed else readString (c :: done) rest

/-- Reads the rest of a literal. -/
def readLiteral : List Char → List Char → Except Fault (List Char)
  | [], text => .ok text
  | _ :: _, [] => .error .endOfText
  | wanted :: more, c :: rest => if c = wanted then readLiteral more rest else .error .malformed

/-- What a reader of values gives: the value as far as it was read, and the rest
of the text or the fault. -/
abbrev Reading := Json × Except Fault (List Char)

/-- A reading that stopped. -/
def stopped (fault : Fault) : Reading := (.broken fault, .error fault)

/-- A reading that went well or stopped before there was a value. -/
def ofResult {α : Type} (make : α → Json) : Except Fault (α × List Char) → Reading
  | .ok (value, rest) => (make value, .ok rest)
  | .error fault => stopped fault

/-- The reading of a literal whose first letter has been read. -/
def literal (value : Json) (more : String) (text : List Char) : Reading :=
  match readLiteral more.toList text with
  | .ok rest => (value, .ok rest)
  | .error fault => stopped fault

mutual

/-- Reads a value. -/
def readValue (bound depth : Nat) (text : List Char) : Reading :=
  match bound with
  | 0 => stopped .malformed
  | bound + 1 =>
    match skipGap text with
    | [] => stopped .endOfText
    | '"' :: rest => ofResult .string (readString [] rest)
    | 'n' :: rest => literal .null "ull" rest
    | 't' :: rest => literal (.boolean true) "rue" rest
    | 'f' :: rest => literal (.boolean false) "alse" rest
    | '[' :: rest =>
      match depth with
      | 0 => stopped .malformed
      | depth + 1 =>
        match skipGap rest with
        | ']' :: rest => (.array [] none, .ok rest)
        | [] => (.array [] (some .endOfText), .error .endOfText)
        | rest => readItem bound depth [] rest
    | '{' :: rest =>
      match depth with
      | 0 => stopped .malformed
      | depth + 1 =>
        match skipGap rest with
        | '}' :: rest => (.object [] none, .ok rest)
        | [] => (.object [] (some .endOfText), .error .endOfText)
        | rest => readMember bound depth [] rest
    | rest => ofResult .number (readNumber rest)

/-- Reads an item and what follows it in its array. The items before it come
newest first. -/
def readItem (bound depth : Nat) (done : List Json) (text : List Char) : Reading :=
  match bound with
  | 0 => stopped .malformed
  | bound + 1 =>
    match readValue bound depth text with
    | (item, .error fault) => (.array (item :: done).reverse (some fault), .error fault)
    | (item, .ok rest) =>
      let items := item :: done
      match skipGap rest with
      | ']' :: rest => (.array items.reverse none, .ok rest)
      | ',' :: rest =>
        match skipGap rest with
        | ']' :: _ =>
          (.array (.broken .malformed :: items).reverse (some .malformed), .error .malformed)
        | rest => readItem bound depth items rest
      | rest => (.array items.reverse (some (faultAt rest)), .error (faultAt rest))

/-- Reads a member and what follows it in its object. The members before it come
newest first. -/
def readMember (bound depth : Nat) (done : List (String × Json)) (text : List Char) : Reading :=
  match bound with
  | 0 => stopped .malformed
  | bound + 1 =>
    match text with
    | '"' :: rest =>
      match readString [] rest with
      | .error fault => (.object done.reverse (some fault), .error fault)
      | .ok (name, rest) =>
        match skipGap rest with
        | ':' :: rest =>
          match readValue bound depth rest with
          | (value, .error fault) =>
            (.object ((name, value) :: done).reverse (some fault), .error fault)
          | (value, .ok rest) =>
            let members := (name, value) :: done
            match skipGap rest with
            | '}' :: rest => (.object members.reverse none, .ok rest)
            | ',' :: rest => readMember bound depth members (skipGap rest)
            | rest => (.object members.reverse (some (faultAt rest)), .error (faultAt rest))
        | rest =>
          let fault := faultAt rest
          (.object ((name, .broken fault) :: done).reverse (some fault), .error fault)
    | rest => (.object done.reverse (some (faultAt rest)), .error (faultAt rest))

end

/-- What a text holds: the value that it begins with, as far as it could be read,
and whether something else than a gap follows that value. -/
structure Document where
  value : Json
  trailing : Option Fault

/-- Reads a text. -/
def read (text : String) : Document :=
  let characters := text.toList
  match readValue (2 * characters.length + 2) nestingLimit characters with
  | (value, .error _) => ⟨value, none⟩
  | (value, .ok rest) => ⟨value, if (skipGap rest).isEmpty then none else some .malformed⟩

/-- The value of a well-formed text, or the first fault. -/
def parse (text : String) : Except Fault Json :=
  let document := read text
  match document.value.fault?.or document.trailing with
  | some fault => .error fault
  | none => .ok document.value

end MnemonicCode.Json
