import MnemonicCode.Json.Writer
import MnemonicCode.Strength

/-!
# Settings

Settings fix the strength of new phrases and where the word list comes from:
the standard English list, or a file that may be pinned to a digest. They are
kept as JSON, on one line or on several.
-/

set_option autoImplicit false

namespace MnemonicCode

/-- Where a word list comes from. -/
inductive WordListSource where
  | embedded
  | file (path : String) (pin : Option String)
  deriving DecidableEq, Repr

/-- What a user may choose once for all runs. -/
structure Settings where
  strength : Strength
  source : WordListSource
  deriving DecidableEq, Repr

namespace Settings

/-- The settings where nothing has been chosen. -/
def standard : Settings := ⟨default, .embedded⟩

/-- The name of the member that holds the strength. -/
def strengthName : String := "entropy_bits"

/-- The name of the member that holds the source. -/
def sourceName : String := "wordlist"

/-- The name of the member that tells the kind of a source. -/
def kindName : String := "source"

/-- The name of the member that holds the path of a file. -/
def pathName : String := "path"

/-- The name of the member that holds the pin of a file. -/
def pinName : String := "sha256"

/-- The word for the standard English list. -/
def embeddedWord : String := "embedded"

/-- The word for a file. -/
def fileWord : String := "file"

/-- A pin as JSON. -/
def pinJson : Option String → Json
  | none => .null
  | some pin => .string pin

/-- A source as JSON. -/
def sourceJson : WordListSource → Json
  | .embedded => .object [(kindName, .string embeddedWord)] none
  | .file path pin =>
    .object [(kindName, .string fileWord), (pathName, .string path), (pinName, pinJson pin)] none

/-- A strength as JSON. -/
def strengthJson (strength : Strength) : Json := .number (.natural strength.bits)

/-- Settings as JSON. -/
def toJson (settings : Settings) : Json :=
  .object [(strengthName, strengthJson settings.strength),
    (sourceName, sourceJson settings.source)] none

/-- Settings on one line. -/
def compact (settings : Settings) : String := settings.toJson.compact

/-- Settings on several lines. -/
def pretty (settings : Settings) : String := settings.toJson.pretty

end Settings

end MnemonicCode
