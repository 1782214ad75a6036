import MnemonicCode.Phrase.Checking
import MnemonicCode.Phrase.Encoding
import MnemonicCode.Randomness
import MnemonicCode.Seed
import MnemonicCode.WordList.English

/-!
# Phrasebooks

A phrasebook joins a word list with a source of randomness. It makes new phrases,
encodes entropy that is given, checks phrases, recovers their entropy and derives
seeds of valid phrases.
-/

set_option autoImplicit false

namespace MnemonicCode

/-- A word list and a source of randomness. -/
structure Phrasebook where
  list : WordList
  randomness : Randomness

namespace Phrasebook

/-- The phrasebook over the standard English list. -/
def english (randomness : Randomness) : Phrasebook := ⟨WordList.english, randomness⟩

/-- The phrase for the entropy. -/
def encode (book : Phrasebook) (entropy : Octets) : Except Failure String :=
  Phrase.encode book.list entropy

/-- A new phrase of the given strength. -/
def generate (book : Phrasebook) (strength : Strength) : Except Failure String :=
  match book.randomness.fill strength.octets (Vector.replicate strength.octets 0) with
  | .error failure => .error failure
  | .ok entropy => book.encode entropy.toList

/-- A new phrase with this many bits of entropy. The number is judged before any
randomness is asked for. -/
def generateBits (book : Phrasebook) (bits : Nat) : Except Failure String :=
  match Strength.ofBits bits with
  | .error failure => .error failure
  | .ok strength => book.generate strength

/-- Whether the text is a valid phrase. -/
def isValid (book : Phrasebook) (text : String) : Bool := Phrase.isValid book.list text

/-- Whether the text is a valid phrase, with the reason if it is not. -/
def check (book : Phrasebook) (text : String) : Except Failure Unit :=
  Phrase.check book.list text

/-- The entropy of a valid phrase. -/
def entropy (book : Phrasebook) (text : String) : Except Failure Octets :=
  Phrase.entropy book.list text

/-- The seed of a valid phrase and a passphrase. -/
def seed (book : Phrasebook) (text passphrase : String) : Except Failure Seed :=
  match book.check text with
  | .error failure => .error failure
  | .ok () => .ok (Seed.derive text passphrase)

/-- The text that shows a phrasebook; of the source nothing is shown. -/
def summary (book : Phrasebook) : String :=
  "MnemonicCodec \x7b wordlist: " ++ book.list.summary ++ ", .. \x7d"

end Phrasebook

end MnemonicCode
