/-!
# Blank and invisible characters

Three classes of characters decide how texts are cut and which words a list may
hold. Blank characters are those with the Unicode property White_Space. Control
characters are those of the general category Cc. A character is invisible when
it is blank, a control character, the byte order mark U+FEFF or the zero-width
space U+200B; two words that differ only in invisible characters look alike.
-/

set_option autoImplicit false

namespace MnemonicCode.Text

/-- A range of code points, both ends included. -/
structure CodeRange where
  first : Nat
  last : Nat
  deriving DecidableEq, Repr

/-- Whether the character lies in one of the ranges. -/
def inRanges (ranges : List CodeRange) (c : Char) : Bool :=
  ranges.any fun range => range.first ≤ c.toNat && c.toNat ≤ range.last

/-- The code points with the property White_Space. -/
def blankRanges : List CodeRange := [
  ⟨0x0009, 0x000d⟩, ⟨0x0020, 0x0020⟩, ⟨0x0085, 0x0085⟩, ⟨0x00a0, 0x00a0⟩, ⟨0x1680, 0x1680⟩,
  ⟨0x2000, 0x200a⟩, ⟨0x2028, 0x2029⟩, ⟨0x202f, 0x202f⟩, ⟨0x205f, 0x205f⟩, ⟨0x3000, 0x3000⟩]

/-- The code points of the category Cc. -/
def controlRanges : List CodeRange := [⟨0x0000, 0x001f⟩, ⟨0x007f, 0x009f⟩]

/-- The byte order mark. -/
def byteOrderMark : Char := '\ufeff'

/-- The zero-width space. -/
def zeroWidthSpace : Char := '\u200b'

/-- Whether the character separates words. -/
def isBlank (c : Char) : Bool := inRanges blankRanges c

/-- Whether the character is a control character. -/
def isControl (c : Char) : Bool := inRanges controlRanges c

/-- Whether the character leaves no visible mark in a word. -/
def isInvisible (c : Char) : Bool :=
  isControl c || isBlank c || c == byteOrderMark || c == zeroWidthSpace

@[simp] theorem isBlank_space : isBlank ' ' = true := by decide

theorem isInvisible_of_isBlank {c : Char} (blank : isBlank c = true) : isInvisible c = true := by
  simp [isInvisible, blank]

end MnemonicCode.Text
