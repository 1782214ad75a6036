import MnemonicCode.Failure
import MnemonicCode.Json.Basic
import MnemonicCode.Text.Quoted

/-!
# Why settings are refused

A text is refused as settings because it is not JSON or because the JSON does
not have the shape of settings. A mismatch of shape names what was found and
what was expected; its wording is in `Mismatch.message`.
-/

set_option autoImplicit false

namespace MnemonicCode.Settings

/-- What is expected at a place in settings. -/
inductive Expectation where
  | bits
  | settings
  | source
  | kind
  | path
  | pin
  deriving DecidableEq, Repr

/-- The words for what is expected. -/
def Expectation.text : Expectation → String
  | bits => "u32"
  | settings => "struct MnemonicConfig"
  | source => "internally tagged enum WordlistSource"
  | kind => "variant identifier"
  | path => "path string"
  | pin => "a string"

/-- How JSON differs from the shape of settings. -/
inductive Mismatch where
  | type (found : Json) (expected : Expectation)
  | range (found : Int)
  | strength (bits : Nat)
  | unknownMember (name : String)
  | repeatedMember (name : String)
  | missingMember (name : String)
  | unknownKind (word : String)
  | surplusItems (found allowed : Nat)
  | missingItems

/-- The words for a value that was not expected. -/
def foundText : Json → String
  | .null => "null"
  | .boolean value => if value then "boolean `true`" else "boolean `false`"
  | .number (.natural value) => s!"integer `{value}`"
  | .number (.negative magnitude) => s!"integer `-{magnitude}`"
  | .number (.real value) => "floating point `" ++ Decimal.text value ++ "`"
  | .string value => "string " ++ Text.quoted value
  | .array _ _ => "sequence"
  | .object _ _ => "map"
  | .broken fault => fault.message

/-- The text of the mismatch. -/
def Mismatch.message : Mismatch → String
  | type found expected => "invalid type: " ++ foundText found ++ ", expected " ++ expected.text
  | range found => s!"invalid value: integer `{found}`, expected u32"
  | strength bits => (Failure.strength bits).message
  | unknownMember name =>
    s!"unknown field `{name}`, expected `entropy_bits` or `wordlist`"
  | repeatedMember name => s!"duplicate field `{name}`"
  | missingMember name => s!"missing field `{name}`"
  | unknownKind word => s!"unknown variant `{word}`, expected `embedded` or `file`"
  | surplusItems found allowed =>
    s!"invalid length {found}, expected {allowed} elements in sequence"
  | missingItems =>
    "invalid length 0, expected struct variant WordlistSource::File with 2 elements"

/-- Why a text is refused as settings. -/
inductive ReadFault where
  | text (fault : Json.Fault)
  | shape (mismatch : Mismatch)

/-- The text of the fault. -/
def ReadFault.message : ReadFault → String
  | text fault => fault.message
  | shape mismatch => mismatch.message

/-- Why there are no settings, or no word list for them. -/
inductive Fault where
  | unreadable (path : String) (fault : File.Fault)
  | refused (fault : ReadFault)
  | wordList (fault : WordListFault)

/-- The text of the fault. -/
def Fault.message : Fault → String
  | unreadable path fault => s!"cannot read {path}: {fault.message}"
  | refused fault => "parse error: " ++ fault.message
  | wordList fault => (Failure.wordList fault).message

end MnemonicCode.Settings
