import MnemonicCode.File.Fault
import MnemonicCode.Text.Utf8

/-!
# Failures

Everything that can go wrong with sizes, randomness, word lists and phrases, as
causes. A cause carries what its text quotes, and the wording is in one function
for each kind. Positions and indices are counted from zero in the causes; the
texts count words of a phrase and lines of a text from one.
-/

set_option autoImplicit false

namespace MnemonicCode

/-- Why a text is no phrase over a word list. -/
inductive PhraseFault where
  | wordCount (count : Nat)
  | unknownWord (position : Nat)
  | checksum
  deriving DecidableEq, Repr

/-- The text of the fault. -/
def PhraseFault.message : PhraseFault → String
  | wordCount count => s!"unsupported word count {count}"
  | unknownWord position => s!"word {position + 1} is not in the wordlist"
  | checksum => "checksum mismatch"

/-- Why entries, a text or a file are no word list. -/
inductive WordListFault where
  | wrongCount (count : Nat)
  | emptyEntry (index : Nat)
  | invisibleCharacter (index : Nat)
  | repeatedEntry (index first : Nat)
  | byteOrderMark
  | paddedLine (index : Nat)
  | unreadable (path : String) (fault : File.Fault)
  | digestMismatch (path : String)
  | notText (fault : Utf8.Fault)
  | noEntry (index : Nat)
  deriving DecidableEq, Repr

/-- The text of the fault. -/
def WordListFault.message : WordListFault → String
  | wrongCount count => s!"expected 2048 words, got {count}"
  | emptyEntry index => s!"entry {index} is empty"
  | invisibleCharacter index => s!"entry {index} contains whitespace or an invisible character"
  | repeatedEntry index first => s!"entry {index} duplicates entry {first}"
  | byteOrderMark => "resource starts with a byte order mark"
  | paddedLine index => s!"line {index + 1} has surrounding whitespace"
  | unreadable path fault => s!"cannot read {path}: {fault.message}"
  | digestMismatch path => s!"sha256 mismatch for {path}"
  | notText fault => s!"not UTF-8: {fault.message}"
  | noEntry index => s!"no word at index {index}"

/-- Why an operation on phrases fails. -/
inductive Failure where
  | strength (bits : Nat)
  | randomness (reason : String)
  | wordList (fault : WordListFault)
  | phrase (fault : PhraseFault)
  deriving DecidableEq, Repr

/-- The text of the failure. -/
def Failure.message : Failure → String
  | strength bits =>
    s!"invalid entropy size: {bits} bits (expected 128, 160, 192, 224 or 256)"
  | randomness reason => s!"randomness unavailable: {reason}"
  | wordList fault => s!"invalid wordlist: {fault.message}"
  | phrase fault => s!"invalid mnemonic: {fault.message}"

end MnemonicCode
