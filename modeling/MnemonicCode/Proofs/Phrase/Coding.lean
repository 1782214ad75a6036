import MnemonicCode.Proofs.Bits.Groups
import MnemonicCode.Proofs.Phrase.Naming
import Mathlib

/-!
# What encoding and checking have in common

Words spell octets over a list (`Spells`) when the octets have a legal length
and the words name the groups of eleven bits into which the octets and their
checksum are cut. Encoding octets succeeds exactly with such words, joined by
single spaces (`encode_eq_ok_iff`), and checking a text succeeds exactly with
the octets that its words spell (`decode_eq_ok_iff`).

The second half rests on two facts about the bits of a phrase. Packing values is
inverse to cutting the checked bits into groups (`packed_eq_checkedBits_iff`),
and the verification accepts nothing but the checked bits of the octets that it
returns (`verified_eq_ok_iff`): no bit of any word is ignored.
-/

set_option autoImplicit false

namespace MnemonicCode

/-! ## The checksum -/

/-- The checksum is the quotient of the digest, read as one number, by the weight
of its last bit. -/
theorem checksum_eq_div (entropy : Octets) (count : Nat) :
    checksum entropy count = (sha256 entropy).toNat / 2 ^ (256 - count) := by
  rw [checksum, Bits.toNat_take, Bits.toNat_ofOctets, Bits.length_ofOctets, length_sha256]

theorem checksum_lt (entropy : Octets) {count : Nat} (small : count ≤ 256) :
    checksum entropy count < 2 ^ count := by
  have length : ((Bits.ofOctets (sha256 entropy)).take count).length = count := by
    rw [List.length_take, Bits.length_ofOctets, length_sha256]
    omega
  have bound := Bits.toNat_lt ((Bits.ofOctets (sha256 entropy)).take count)
  rwa [length] at bound

theorem checksum_strength_lt (entropy : Octets) (strength : Strength) :
    checksum entropy strength.checksumBits < 2 ^ strength.checksumBits :=
  checksum_lt entropy (strength.checksumBits_le.trans (by decide))

/-! ## The width of a word -/

theorem one_le_bitsPerWord : 1 ≤ bitsPerWord := by decide

namespace Phrase

variable {strength : Strength} {octets : Octets}

/-! ## The checked bits -/

theorem toBits_checkedBits :
    (checkedBits strength octets).toBits
      = Bits.ofOctets octets
        ++ Bits.ofNat strength.checksumBits (checksum octets strength.checksumBits) := by
  rw [checkedBits, BitString.toBits_appendLow, BitString.toBits_ofOctets, Strength.checksum_eq]

theorem length_checkedBits (legal : octets.length = strength.octets) :
    (checkedBits strength octets).length = strength.bits + strength.checksumBits := by
  rw [← BitString.length_toBits, toBits_checkedBits, List.length_append, Bits.length_ofOctets,
    Bits.length_ofNat, legal, strength.eight_mul_octets]

/-- There is one value for every word of a phrase. -/
theorem length_values (legal : octets.length = strength.octets) :
    (values strength octets).length = strength.wordCount := by
  rw [values, BitString.length_groups one_le_bitsPerWord bitsPerWord_le_maxWidth,
    length_checkedBits legal]
  rfl

theorem lt_of_mem_values {value : Nat} (member : value ∈ values strength octets) :
    value < wordListLength :=
  BitString.lt_of_mem_groups one_le_bitsPerWord bitsPerWord_le_maxWidth member

/-! ## Packing values -/

theorem toBits_packed (numbers : List Nat) :
    (packed numbers).toBits = numbers.flatMap (Bits.ofNat bitsPerWord) := by
  have appended (start : BitString) :
      (numbers.foldl (fun bits value => bits.appendLow value bitsPerWord bitsPerWord_le_maxWidth)
        start).toBits = start.toBits ++ numbers.flatMap (Bits.ofNat bitsPerWord) := by
    induction numbers generalizing start with
    | nil => simp
    | cons number rest ih =>
      rw [List.foldl_cons, ih, BitString.toBits_appendLow, List.flatMap_cons, List.append_assoc]
  rw [packed, appended, BitString.toBits_empty, List.nil_append]

theorem length_packed (numbers : List Nat) :
    (packed numbers).length = bitsPerWord * numbers.length := by
  rw [← BitString.length_toBits, toBits_packed, Bits.length_flatMap_ofNat, Nat.mul_comm]

/-- Values below 2048 are the groups of what they are packed into. -/
theorem groups_packed {numbers : List Nat} (small : ∀ number ∈ numbers, number < wordListLength) :
    (packed numbers).groups bitsPerWord = numbers := by
  rw [BitString.groups_of_toBits_eq one_le_bitsPerWord bitsPerWord_le_maxWidth
    (toBits_packed numbers)]
  refine (List.map_congr_left fun number member => ?_).trans (List.map_id _)
  exact Nat.mod_eq_of_lt (small number member)

/-- **The checked bits of octets are what their values are packed into**, and no
other values below 2048 are packed into the same bits. -/
theorem packed_eq_checkedBits_iff (legal : octets.length = strength.octets)
    {numbers : List Nat} (small : ∀ number ∈ numbers, number < wordListLength) :
    packed numbers = checkedBits strength octets ↔ numbers = values strength octets := by
  constructor
  · intro same
    rw [values, ← same, groups_packed small]
  · rintro rfl
    apply BitString.toBits_inj
    have whole : (checkedBits strength octets).length / bitsPerWord * bitsPerWord
        = (checkedBits strength octets).toBits.length := by
      rw [BitString.length_toBits, length_checkedBits legal, ← strength.bitsPerWord_mul_wordCount]
      exact Nat.div_mul_cancel (Nat.dvd_mul_right _ _)
    rw [toBits_packed, values,
      BitString.flatMap_groups one_le_bitsPerWord bitsPerWord_le_maxWidth, whole,
      List.take_length]

/-! ## Verifying bits -/

variable {bits : BitString}

/-- The bits before the checksum are those of octets. -/
theorem exists_leading (length : bits.length = strength.bits + strength.checksumBits) :
    ∃ octets : Octets, octets.length = strength.octets ∧
      Bits.ofOctets octets = bits.toBits.take strength.bits := by
  have whole : strength.bits % 8 = 0 := by
    rw [← strength.eight_mul_octets]
    exact Nat.mul_mod_right 8 _
  have held : strength.bits ≤ bits.length := by omega
  have given : bits.leadingOctets? strength.bits
      = some (bits.octets.take (strength.bits / 8)).toList := by
    rw [BitString.leadingOctets?, if_pos ⟨whole, held⟩]
  obtain ⟨-, same⟩ := (BitString.leadingOctets?_eq_some_iff bits _ _).mp given
  refine ⟨_, ?_, same⟩
  have count := congrArg List.length same
  rw [Bits.length_ofOctets, List.length_take, BitString.length_toBits] at count
  have octets := strength.eight_mul_octets
  omega

/-- The verification compares the checksum of the leading octets with the number
that all other bits spell. Its fallbacks are not reached: both ranges are held. -/
theorem verified_eq (length : bits.length = strength.bits + strength.checksumBits)
    (leading : Bits.ofOctets octets = bits.toBits.take strength.bits) :
    verified strength bits =
      if checksum octets strength.checksumBits = Bits.toNat (bits.toBits.drop strength.bits) then
        .ok octets
      else
        .error .checksum := by
  have first : bits.leadingOctets? strength.bits = some octets :=
    (BitString.leadingOctets?_eq_some_iff bits _ _).mpr ⟨by omega, leading⟩
  have allowed := strength.checksumBits_le_maxWidth
  have others : (bits.toBits.drop strength.bits).take strength.checksumBits
      = bits.toBits.drop strength.bits := by
    apply List.take_of_length_le
    rw [List.length_drop, BitString.length_toBits]
    omega
  have stored : bits.read? strength.bits strength.checksumBits
      = some (Bits.toNat (bits.toBits.drop strength.bits)) := by
    rw [BitString.read?_eq, if_pos ⟨allowed, length.ge⟩, others]
  rw [verified, first]
  simp only [stored, strength.checksum_eq]

/-- **The verification accepts the checked bits of octets and nothing else.** -/
theorem verified_eq_ok_iff (length : bits.length = strength.bits + strength.checksumBits) :
    verified strength bits = .ok octets ↔
      octets.length = strength.octets ∧ bits = checkedBits strength octets := by
  constructor
  · intro accepted
    obtain ⟨found, legal, leading⟩ := exists_leading length
    rw [verified_eq length leading] at accepted
    split at accepted
    · next agree =>
      cases accepted
      refine ⟨legal, BitString.toBits_inj ?_⟩
      -- The bits after the entropy are as many as the checksum has, so that their
      -- number determines all of them.
      have others := Bits.ofNat_toNat (bits.toBits.drop strength.bits)
      rw [List.length_drop, BitString.length_toBits, length, Nat.add_sub_cancel_left,
        ← agree] at others
      rw [toBits_checkedBits, leading, others, List.take_append_drop]
    · cases accepted
  · rintro ⟨legal, rfl⟩
    have width : (Bits.ofOctets octets).length = strength.bits := by
      rw [Bits.length_ofOctets, legal, strength.eight_mul_octets]
    have leading : Bits.ofOctets octets
        = (checkedBits strength octets).toBits.take strength.bits := by
      rw [toBits_checkedBits, List.take_left' width]
    rw [verified_eq length leading, toBits_checkedBits, List.drop_left' width, Bits.toNat_ofNat,
      Nat.mod_eq_of_lt (checksum_strength_lt octets strength), if_pos rfl]

/-! ## Words that spell octets -/

/-- The words spell the octets: they name the groups into which the octets and
their checksum are cut. -/
def Spells (list : WordList) (octets : Octets) (words : List String) : Prop :=
  ∃ strength : Strength,
    octets.length = strength.octets ∧ list.Names (values strength octets) words

namespace Spells

variable {list : WordList} {words : List String}

theorem legal (spells : Spells list octets words) : octets.length ∈ [16, 20, 24, 28, 32] := by
  obtain ⟨strength, length, -⟩ := spells
  exact (Strength.exists_octets_eq_iff _).mp ⟨strength, length.symm⟩

theorem mem_entries (spells : Spells list octets words) : ∀ word ∈ words, word ∈ list.entries := by
  obtain ⟨_, _, names⟩ := spells
  exact names.mem_entries

theorem isWord (spells : Spells list octets words) : ∀ word ∈ words, Text.IsWord word :=
  fun word member => list.isWord_of_mem (spells.mem_entries word member)

/-- One strength fixes both numbers, that of the octets and that of the words. -/
theorem exists_strength (spells : Spells list octets words) :
    ∃ strength : Strength,
      octets.length = strength.octets ∧ words.length = strength.wordCount := by
  obtain ⟨strength, length, names⟩ := spells
  exact ⟨strength, length, names.length_eq.symm.trans (length_values length)⟩

/-- There is one strength for a number of octets. -/
theorem names {strength : Strength} (spells : Spells list octets words)
    (length : octets.length = strength.octets) : list.Names (values strength octets) words := by
  obtain ⟨other, lengthOther, names⟩ := spells
  have same : some other = some strength := by
    rw [← Strength.ofOctets?_octets, ← Strength.ofOctets?_octets, ← lengthOther, ← length]
  cases same
  exact names

/-- The octets determine the words. -/
theorem words_unique {others : List String} (spells : Spells list octets words)
    (again : Spells list octets others) : words = others := by
  obtain ⟨strength, length, names⟩ := spells
  exact names.words_unique (again.names length)

end Spells

variable {list : WordList}

/-- Octets of a legal length are spelled by the words of their values. -/
theorem spells_map_word (list : WordList) (legal : octets.length = strength.octets) :
    Spells list octets
      ((values strength octets).map fun value => list.word (WordList.residue value)) :=
  ⟨strength, legal, list.names_map_word fun _ member => lt_of_mem_values member⟩

/-- **Encoding gives the words that spell the octets**, joined by single spaces. -/
theorem encode_eq_ok_iff {phrase : String} :
    encode list octets = .ok phrase ↔
      ∃ words, Spells list octets words ∧ ofWords words = phrase := by
  constructor
  · intro encoded
    rw [encode] at encoded
    cases found : Strength.ofOctets? octets.length with
    | none =>
      rw [found] at encoded
      cases encoded
    | some strength =>
      have legal := (Strength.octets_of_ofOctets? found).symm
      cases written : wordsOf list (values strength octets) with
      | error fault =>
        simp only [found, written] at encoded
        cases encoded
      | ok words =>
        simp only [found, written] at encoded
        cases encoded
        exact ⟨words, ⟨strength, legal, wordsOf_eq_ok_iff.mp written⟩, rfl⟩
  · rintro ⟨words, ⟨strength, legal, names⟩, rfl⟩
    rw [encode, legal, Strength.ofOctets?_octets]
    simp only [wordsOf_eq_ok_iff.mpr names]

/-- **Checking accepts a text exactly when its words spell octets**, and returns
these octets. -/
theorem decode_eq_ok_iff {text : String} :
    decode list text = .ok octets ↔ Spells list octets (Text.words text) := by
  constructor
  · intro decoded
    rw [decode] at decoded
    cases found : Strength.ofWordCount? (Text.words text).length with
    | none =>
      simp only [found] at decoded
      cases decoded
    | some strength =>
      cases read : lookUp list 0 (Text.words text) with
      | error fault =>
        simp only [found, read] at decoded
        cases decoded
      | ok numbers =>
        simp only [found, read] at decoded
        have names := lookUp_eq_ok_iff.mp read
        have length : (packed numbers).length = strength.bits + strength.checksumBits := by
          rw [length_packed, names.length_eq, ← Strength.wordCount_of_ofWordCount? found,
            strength.bitsPerWord_mul_wordCount]
        obtain ⟨legal, same⟩ := (verified_eq_ok_iff length).mp decoded
        rw [(packed_eq_checkedBits_iff legal names.lt).mp same] at names
        exact ⟨strength, legal, names⟩
  · rintro ⟨strength, legal, names⟩
    have count : (Text.words text).length = strength.wordCount := by
      rw [← names.length_eq, length_values legal]
    have same := (packed_eq_checkedBits_iff legal names.lt).mpr rfl
    rw [decode]
    simp only [count, Strength.ofWordCount?_wordCount, lookUp_eq_ok_iff.mpr names, same]
    exact (verified_eq_ok_iff (length_checkedBits legal)).mpr ⟨legal, rfl⟩

end Phrase

end MnemonicCode
