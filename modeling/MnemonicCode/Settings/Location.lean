import MnemonicCode.Settings.Reader
import MnemonicCode.WordList.English
import MnemonicCode.WordList.Pinned

/-!
# Where settings are kept

Settings are kept in a file, by default in a directory of their own under the
home directory. Without the default file the standard settings hold. Settings
lead to a word list, for which a second file may be read.
-/

set_option autoImplicit false

namespace MnemonicCode

/-- The path of `name` in the directory at `base`. -/
def File.join (base name : String) : String :=
  if base.isEmpty || base.toList.getLast? == some '/' then base ++ name
  else base ++ "/" ++ name

namespace Settings

/-- The directory of the default file. -/
def defaultDirectory (home : String) : String := File.join home ".seedphrase"

/-- The path of the default file. -/
def defaultPath (home : String) : String := File.join (defaultDirectory home) "config.json"

/-- The settings in a file whose content has been asked for. -/
def ofContent (path : String) (content : Except File.Fault Octets) : Except Fault Settings :=
  match content with
  | .error fault => .error (.unreadable path fault)
  | .ok octets =>
    match Utf8.decode octets with
    | .error _ => .error (.unreadable path .notText)
    | .ok text => (ofText text).mapError .refused

section Access

variable {m : Type → Type} [Monad m]

/-- Reads the settings in the file at `path`. -/
def load (files : File.Access m) (path : String) : m (Except Fault Settings) := do
  return ofContent path (← files.read path)

/-- Reads the default file, if there is one. -/
def loadDefault (files : File.Access m) (home : String) : m (Except Fault Settings) := do
  if ← files.isPresent (defaultPath home) then
    load files (defaultPath home)
  else
    return .ok standard

/-- Reads the word list that the settings ask for. -/
def wordList (files : File.Access m) (settings : Settings) : m (Except Fault WordList) := do
  match settings.source with
  | .embedded => return .ok WordList.english
  | .file path pin =>
    return (← WordList.load files path pin).mapError .wordList

end Access

end Settings

end MnemonicCode
