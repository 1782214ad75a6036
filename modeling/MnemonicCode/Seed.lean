import MnemonicCode.Hash.Pbkdf2
import MnemonicCode.Text.Utf8

/-!
# Seeds

A seed is what a phrase and a passphrase are stretched into. The text of the
phrase is used as it stands, blank characters included, and neither text is
normalised. A seed is never shown except on request: its own text is a mask.
-/

set_option autoImplicit false

namespace MnemonicCode

/-- The octets in a seed. -/
def seedLength : Nat := 64

/-- The number of keyed hashes in the chain that makes a seed. -/
def stretchingRounds : Nat := 2048

/-- The text before the passphrase in the salt. -/
def saltLabel : String := "mnemonic"

/-- The result of stretching a phrase. -/
structure Seed where
  octets : Octets
  length_eq : octets.length = seedLength
  deriving DecidableEq

namespace Seed

/-- The seed with these octets, if there are as many as a seed has. -/
def ofOctets? (octets : Octets) : Option Seed :=
  if length_eq : octets.length = seedLength then some ⟨octets, length_eq⟩ else none

/-- The password of the stretching. -/
def password (phrase : String) : Octets := Utf8.encode phrase

/-- The salt of the stretching. -/
def salt (passphrase : String) : Octets := Utf8.encode (saltLabel ++ passphrase)

/-- The seed of a phrase and a passphrase; the phrase is not checked. -/
def derive (phrase passphrase : String) : Seed :=
  ⟨pbkdf2 (password phrase) (salt passphrase) stretchingRounds seedLength, by simp⟩

/-- The octets of the seed in hexadecimal. -/
def hex (seed : Seed) : String := seed.octets.hex

/-- The text that stands for any seed where its octets must not be shown. -/
def mask (_ : Seed) : String := "<sensitive>"

end Seed

end MnemonicCode
