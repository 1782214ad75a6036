import MnemonicCode.Failure

/-!
# Strengths

A strength is one of the five lengths that entropy may have. It fixes the length
of the checksum, one bit for every 32 bits of entropy, and the number of words,
one for every eleven bits of entropy and checksum together.
-/

set_option autoImplicit false

namespace MnemonicCode

/-- The number of bits that a word stands for. -/
def bitsPerWord : Nat := 11

/-- A legal length of entropy. -/
inductive Strength where
  | bits128
  | bits160
  | bits192
  | bits224
  | bits256
  deriving DecidableEq, Repr

namespace Strength

/-- The strengths, smallest first. -/
def all : List Strength := [bits128, bits160, bits192, bits224, bits256]

/-- The strength that is used when none is asked for. -/
instance : Inhabited Strength := ⟨bits128⟩

/-- The length of the entropy in bits. -/
def bits : Strength → Nat
  | bits128 => 128
  | bits160 => 160
  | bits192 => 192
  | bits224 => 224
  | bits256 => 256

/-- The first number that is too large for a number of bits: requests for a
strength are made with 32 bits. -/
def bitsLimit : Nat := 0x100000000

/-- The length of the entropy in octets. -/
def octets (strength : Strength) : Nat := strength.bits / 8

/-- The length of the checksum in bits. -/
def checksumBits (strength : Strength) : Nat := strength.bits / 32

/-- The number of words in a phrase. -/
def wordCount (strength : Strength) : Nat :=
  (strength.bits + strength.checksumBits) / bitsPerWord

/-- The strength with this many bits of entropy. -/
def ofBits (bits : Nat) : Except Failure Strength :=
  match all.find? (·.bits == bits) with
  | some strength => .ok strength
  | none => .error (.strength bits)

/-- The strength with this many octets of entropy, if there is one. -/
def ofOctets? (count : Nat) : Option Strength := all.find? (·.octets == count)

/-- The strength whose phrases have this many words, if there is one. -/
def ofWordCount? (count : Nat) : Option Strength := all.find? (·.wordCount == count)

/-- The text that shows a strength. -/
def text (strength : Strength) : String := s!"{strength.bits} bits"

theorem bits_of_ofBits {bits : Nat} {strength : Strength} (found : ofBits bits = .ok strength) :
    strength.bits = bits := by
  unfold ofBits at found
  split at found
  · next candidate lookup =>
    have same := List.find?_some lookup
    cases found
    exact beq_iff_eq.mp same
  · cases found

@[simp] theorem ofBits_bits (strength : Strength) : ofBits strength.bits = .ok strength := by
  cases strength <;> rfl

@[simp] theorem ofOctets?_octets (strength : Strength) :
    ofOctets? strength.octets = some strength := by
  cases strength <;> rfl

@[simp] theorem ofWordCount?_wordCount (strength : Strength) :
    ofWordCount? strength.wordCount = some strength := by
  cases strength <;> rfl

theorem octets_of_ofOctets? {count : Nat} {strength : Strength}
    (found : ofOctets? count = some strength) : strength.octets = count := by
  have same := List.find?_some found
  exact beq_iff_eq.mp same

theorem wordCount_of_ofWordCount? {count : Nat} {strength : Strength}
    (found : ofWordCount? count = some strength) : strength.wordCount = count := by
  have same := List.find?_some found
  exact beq_iff_eq.mp same

theorem eight_mul_octets (strength : Strength) : 8 * strength.octets = strength.bits := by
  cases strength <;> rfl

theorem checksumBits_eq (strength : Strength) : strength.checksumBits = strength.octets / 4 := by
  cases strength <;> rfl

theorem checksumBits_le (strength : Strength) : strength.checksumBits ≤ 8 := by
  cases strength <;> decide

/-- A phrase has three words for every bit of the checksum. -/
theorem wordCount_eq (strength : Strength) : strength.wordCount = 3 * strength.checksumBits := by
  cases strength <;> rfl

/-- The words have room for the entropy and the checksum and for no bit more. -/
theorem bitsPerWord_mul_wordCount (strength : Strength) :
    bitsPerWord * strength.wordCount = strength.bits + strength.checksumBits := by
  cases strength <;> rfl

/-! ## The legal numbers of bits, octets and words -/

theorem mem_all (strength : Strength) : strength ∈ all := by
  cases strength <;> decide

/-- The numbers that belong to strengths are those of the five listed. -/
theorem exists_eq_iff_mem_map (number : Strength → Nat) (count : Nat) :
    (∃ strength, number strength = count) ↔ count ∈ all.map number := by
  rw [List.mem_map]
  constructor
  · rintro ⟨strength, same⟩
    exact ⟨strength, strength.mem_all, same⟩
  · rintro ⟨strength, -, same⟩
    exact ⟨strength, same⟩

theorem exists_bits_eq_iff (count : Nat) :
    (∃ strength : Strength, strength.bits = count) ↔ count ∈ [128, 160, 192, 224, 256] :=
  exists_eq_iff_mem_map bits count

theorem exists_octets_eq_iff (count : Nat) :
    (∃ strength : Strength, strength.octets = count) ↔ count ∈ [16, 20, 24, 28, 32] :=
  exists_eq_iff_mem_map octets count

theorem exists_wordCount_eq_iff (count : Nat) :
    (∃ strength : Strength, strength.wordCount = count) ↔ count ∈ [12, 15, 18, 21, 24] :=
  exists_eq_iff_mem_map wordCount count

end Strength

end MnemonicCode
