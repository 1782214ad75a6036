import MnemonicCode.WordList.Canonical
import MnemonicCode.File.Access

/-!
# Word lists in files

A file is read as a word list. When it is pinned to a digest, the SHA-256 digest
of its octets is compared with the pin before the content is looked at; letter
case and blank characters around the pin do not matter.
-/

set_option autoImplicit false

namespace MnemonicCode.WordList

/-- Whether the octets have the digest given by the pin. -/
def matchesPin (octets : Octets) (pin : String) : Bool :=
  (sha256 octets).hex.toList.map Char.toLower == (Text.trimmed pin).toList.map Char.toLower

/-- The word list in the octets of the file at `path`. -/
def ofOctets (path : String) (pin : Option String) (octets : Octets) :
    Except WordListFault WordList :=
  if pin.all (matchesPin octets) then
    match Utf8.decode octets with
    | .error fault => .error (.notText fault)
    | .ok text => ofText text
  else
    .error (.digestMismatch path)

/-- The word list in a file whose content has been asked for. -/
def ofContent (path : String) (pin : Option String) (content : Except File.Fault Octets) :
    Except WordListFault WordList :=
  match content with
  | .error fault => .error (.unreadable path fault)
  | .ok octets => ofOctets path pin octets

/-- Reads the word list in the file at `path`. -/
def load {m : Type → Type} [Monad m] (files : File.Access m) (path : String)
    (pin : Option String) : m (Except WordListFault WordList) := do
  return ofContent path pin (← files.read path)

end MnemonicCode.WordList
