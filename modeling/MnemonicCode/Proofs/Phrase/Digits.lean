import MnemonicCode.Proofs.Phrase.Coding
import Mathlib

/-!
# The phrase as a numeral

The octets and their checksum are one number (`checkedNumber`), and the words of
the phrase are its digits in base 2048, written with the words of the list
(`encode_eq_digits`). This is the arithmetic description of the encoding, without
bits, groups or storage.

The encoding has an answer for octets of any length. No value of a phrase is
without a word, so the only failure is that of the length.
-/

set_option autoImplicit false

namespace MnemonicCode.Phrase

open WordList (residue)

variable {strength : Strength} {octets : Octets}

/-- The octets, followed by one bit of their digest for every four of them, read
as one number. -/
def checkedNumber (octets : Octets) : Nat :=
  octets.toNat * 2 ^ (octets.length / 4)
    + (sha256 octets).toNat / 2 ^ (256 - octets.length / 4)

/-- The checked bits spell the checked number. -/
theorem toNat_checkedBits (legal : octets.length = strength.octets) :
    Bits.toNat (checkedBits strength octets).toBits = checkedNumber octets := by
  have count : octets.length / 4 = strength.checksumBits := by
    rw [legal, strength.checksumBits_eq]
  rw [toBits_checkedBits, Bits.toNat_append, Bits.length_ofNat, Bits.toNat_ofOctets,
    Bits.toNat_ofNat, Nat.mod_eq_of_lt (checksum_strength_lt octets strength), checkedNumber,
    count, checksum_eq_div]

/-- **The values of the words are the digits of the checked number** in base 2048,
the most significant first. -/
theorem values_eq_digits (legal : octets.length = strength.octets) :
    values strength octets = (List.range strength.wordCount).map fun index =>
      checkedNumber octets / 2 ^ (11 * (strength.wordCount - 1 - index)) % wordListLength := by
  have length : (checkedBits strength octets).length = 11 * strength.wordCount := by
    rw [length_checkedBits legal, ← strength.bitsPerWord_mul_wordCount, bitsPerWord]
  rw [values, BitString.groups_eq_digits one_le_bitsPerWord bitsPerWord_le_maxWidth,
    toNat_checkedBits legal, length, bitsPerWord, Nat.mul_div_cancel_left _ (by decide)]
  refine List.map_congr_left fun index small => ?_
  have inside := List.mem_range.mp small
  have place : 11 * strength.wordCount - (index + 1) * 11
      = 11 * (strength.wordCount - 1 - index) := by
    omega
  rw [place]
  rfl

/-- Octets of a legal length are spelled by the digits of the checked number. -/
theorem spells_digits (list : WordList) (legal : octets.length = strength.octets) :
    Spells list octets ((List.range strength.wordCount).map fun index =>
      list.word (residue
        (checkedNumber octets / 2 ^ (11 * (strength.wordCount - 1 - index))))) := by
  have spells := spells_map_word list legal
  rw [values_eq_digits legal, List.map_map] at spells
  have same (number : Nat) : residue (number % wordListLength) = residue number :=
    Fin.ext (Nat.mod_mod number wordListLength)
  simpa only [Function.comp_def, same] using spells

theorem encode_eq_error (list : WordList) (illegal : octets.length ∉ [16, 20, 24, 28, 32]) :
    encode list octets = .error (.strength (quotedBits octets.length)) := by
  rw [encode]
  cases found : Strength.ofOctets? octets.length with
  | none => rfl
  | some strength =>
    have length := Strength.octets_of_ofOctets? found
    exact absurd ((Strength.exists_octets_eq_iff _).mp ⟨strength, length⟩) illegal

/-- **Encoding writes the checked number in base 2048.** Octets of a legal length
have as many digits as three for every bit of the checksum, each written as a word
of the list; of any other length the number of bits is quoted, cut off at what 32
bits can hold. The word list never fails to have a word. -/
theorem encode_eq_digits (list : WordList) (octets : Octets) :
    (encode list octets =
      if octets.length ∈ [16, 20, 24, 28, 32] then
        .ok (" ".intercalate ((List.range (3 * (octets.length / 4))).map fun index =>
          list.word (residue
            (checkedNumber octets / 2 ^ (11 * (3 * (octets.length / 4) - 1 - index))))))
      else
        .error (.strength (min (8 * octets.length) (2 ^ 32 - 1)))) ∧
    ∀ fault, encode list octets ≠ .error (.wordList fault) := by
  split
  · next legal =>
    obtain ⟨strength, length⟩ := (Strength.exists_octets_eq_iff _).mpr legal
    have count : 3 * (octets.length / 4) = strength.wordCount := by
      rw [strength.wordCount_eq, strength.checksumBits_eq, length]
    have encoded := encode_eq_ok_iff.mpr ⟨_, spells_digits list length.symm, rfl⟩
    rw [count]
    refine ⟨encoded, fun fault failed => ?_⟩
    rw [encoded] at failed
    cases failed
  · next illegal =>
    have failed := encode_eq_error list illegal
    refine ⟨failed, fun fault other => ?_⟩
    rw [failed] at other
    cases other

end MnemonicCode.Phrase
