import MnemonicCode.Phrase.Checksum
import MnemonicCode.Strength
import MnemonicCode.Text.Words
import MnemonicCode.WordList.Basic

/-!
# From a phrase to entropy

A text is a phrase over a word list when three conditions hold, which are
checked in this order: its number of words belongs to a strength, all its words
are in the list, and the last bits that the words stand for are the checksum of
the bits before them. Those bits are the entropy of the phrase.
-/

set_option autoImplicit false

namespace MnemonicCode

theorem bitsPerWord_le_maxWidth : bitsPerWord ≤ maxWidth := by decide

namespace Phrase

/-- The values of the words, the first of them at `position`, or the first
position whose word is not in the list. -/
def lookUp (list : WordList) (position : Nat) : List String → Except PhraseFault (List Nat)
  | [] => .ok []
  | word :: rest =>
    match list.position? word with
    | none => .error (.unknownWord position)
    | some value => (lookUp list (position + 1) rest).map (value :: ·)

/-- The bits of the values, eleven for each. -/
def packed (values : List Nat) : BitString :=
  values.foldl (fun bits value => bits.appendLow value bitsPerWord bitsPerWord_le_maxWidth)
    BitString.empty

/-- The entropy in the bits of a phrase, if the checksum is right. -/
def verified (strength : Strength) (bits : BitString) : Except PhraseFault Octets :=
  match bits.leadingOctets? strength.bits with
  | none => .error (.wordCount strength.wordCount)
  | some entropy =>
    match bits.read? strength.bits strength.checksumBits with
    | none => .error .checksum
    | some stored =>
      if strength.checksum entropy = stored then .ok entropy else .error .checksum

/-- The entropy of the text as a phrase over the list, or the first condition
that fails. -/
def decode (list : WordList) (text : String) : Except PhraseFault Octets :=
  let words := Text.words text
  match Strength.ofWordCount? words.length with
  | none => .error (.wordCount words.length)
  | some strength =>
    match lookUp list 0 words with
    | .error fault => .error fault
    | .ok values => verified strength (packed values)

/-- The entropy of a valid phrase. -/
def entropy (list : WordList) (text : String) : Except Failure Octets :=
  (decode list text).mapError .phrase

/-- Whether the text is a valid phrase, with the reason if it is not. -/
def check (list : WordList) (text : String) : Except Failure Unit :=
  (entropy list text).map fun _ => ()

/-- Whether the text is a valid phrase. -/
def isValid (list : WordList) (text : String) : Bool := (decode list text).isOk

end Phrase

end MnemonicCode
