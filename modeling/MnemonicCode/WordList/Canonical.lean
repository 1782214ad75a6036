import MnemonicCode.WordList.Basic
import MnemonicCode.Hash.Sha2
import MnemonicCode.Text.Words

/-!
# Word lists as texts

The canonical text of a word list has one word on each line, and every line ends
with a line feed. Its SHA-256 digest identifies the list.

Reading is strict: no byte order mark, no blank character at either end of a
line, and no line feed after the last word but one. What is left are the entries
of the list.
-/

set_option autoImplicit false

namespace MnemonicCode.WordList

/-- Every word of the list followed by a line feed. -/
def text (list : WordList) : String :=
  String.join (list.entries.map fun entry => entry ++ "\n")

/-- The digest that identifies the list, in hexadecimal. -/
def digest (list : WordList) : String := (sha256 (Utf8.encode list.text)).hex

/-- The word list that a text holds, or the first defect of the text. -/
def ofText (text : String) : Except WordListFault WordList :=
  if text.toList.head? == some Text.byteOrderMark then
    .error .byteOrderMark
  else
    let lines := Text.lines (Text.withoutFinalLineFeed text)
    match lines.findIdx? Text.isPadded with
    | some index => .error (.paddedLine index)
    | none => ofEntries lines

end MnemonicCode.WordList
