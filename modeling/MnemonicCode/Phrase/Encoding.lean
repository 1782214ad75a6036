import MnemonicCode.Phrase.Checksum
import MnemonicCode.Strength
import MnemonicCode.WordList.Basic

/-!
# From entropy to a phrase

The bits of the entropy are followed by the bits of its checksum. Cut into
groups of eleven, they are values that a word list names, and the phrase is made
of these words with one space between neighbours.
-/

set_option autoImplicit false

namespace MnemonicCode.Phrase

/-- The bits of the entropy and then those of its checksum. -/
def checkedBits (strength : Strength) (entropy : Octets) : BitString :=
  (BitString.ofOctets entropy).appendLow (strength.checksum entropy) strength.checksumBits
    strength.checksumBits_le_maxWidth

/-- The values of the words of a phrase. -/
def values (strength : Strength) (entropy : Octets) : List Nat :=
  (checkedBits strength entropy).groups bitsPerWord

/-- The words of the values, or the first value that has no word. -/
def wordsOf (list : WordList) : List Nat → Except WordListFault (List String)
  | [] => .ok []
  | value :: rest =>
    match list.word? value with
    | none => .error (.noEntry value)
    | some word => (wordsOf list rest).map (word :: ·)

/-- The words with one space between neighbours. -/
def ofWords (words : List String) : String := " ".intercalate words

/-- The number of bits that a failure quotes for octets of no legal length. -/
def quotedBits (count : Nat) : Nat := min (8 * count) (Strength.bitsLimit - 1)

/-- The phrase for the entropy over the list, if the length is legal. -/
def encode (list : WordList) (entropy : Octets) : Except Failure String :=
  match Strength.ofOctets? entropy.length with
  | none => .error (.strength (quotedBits entropy.length))
  | some strength =>
    match wordsOf list (values strength entropy) with
    | .error fault => .error (.wordList fault)
    | .ok words => .ok (ofWords words)

end MnemonicCode.Phrase
