import MnemonicCode.Proofs.Bits.Numerals
import MnemonicCode.Proofs.Phrase.RoundTrip
import Mathlib

/-!
# The verdict on a text

A text is judged by the number of its words, by the first word that is not in the
list, and by a number. The places of its words in the list are the digits of this
number in base 2048 (`numeral`). The last digits of the number in base two, one for
every three words, are the checksum that the text claims (`claimedChecksum`); the
rest of the number, written in octets, is the entropy that it claims
(`claimedEntropy`). The text is valid when the checksum is that of the entropy
(`Agrees`).

These conditions are tried in this order, and there is a verdict on every text
(`exists_verdict`), which is the answer of decoding (`decode_eq_iff`). So each answer
of a check is described by the conditions that lead to it (`check_firstFault`). The
bits of the words always hold a whole entropy and a whole checksum, so that nothing
else can fail (`verified_packed`).
-/

set_option autoImplicit false

namespace MnemonicCode

namespace WordList

/-- Words of the list name their places in it. -/
theorem names_map_idxOf (list : WordList) {words : List String}
    (known : ∀ word ∈ words, word ∈ list.entries) :
    list.Names (words.map list.entries.idxOf) words := by
  rw [Names, List.forall₂_map_left_iff, List.forall₂_same]
  intro word member
  exact List.getElem?_idxOf (known word member)

end WordList

namespace Phrase

variable {list : WordList} {words : List String} {strength : Strength}

/-! ## Looking words up -/

/-- The positions of the words that are not in the list. -/
def unknownPositions (list : WordList) (words : List String) : Set Nat :=
  {position | ∃ word, words[position]? = some word ∧ word ∉ list.entries}

theorem unknownPositions_eq_empty_iff :
    unknownPositions list words = ∅ ↔ ∀ word ∈ words, word ∈ list.entries := by
  rw [Set.eq_empty_iff_forall_notMem]
  constructor
  · intro none word member
    obtain ⟨position, here⟩ := List.getElem?_of_mem member
    by_contra unknown
    exact none position ⟨word, here, unknown⟩
  · rintro known position ⟨word, here, unknown⟩
    exact unknown (known word (List.mem_of_getElem? here))

/-- The values of known words are their places in the list. -/
theorem lookUp_of_known (known : ∀ word ∈ words, word ∈ list.entries) (position : Nat) :
    lookUp list position words = .ok (words.map list.entries.idxOf) :=
  lookUp_eq_ok_iff.mpr (list.names_map_idxOf known)

theorem lookUp_cons_of_mem {word : String} (known : word ∈ list.entries) (position : Nat)
    (rest : List String) :
    lookUp list position (word :: rest)
      = (lookUp list (position + 1) rest).map (list.entries.idxOf word :: ·) := by
  have found : list.position? word = some (list.entries.idxOf word) :=
    list.position?_eq_some_iff.mpr (List.getElem?_idxOf known)
  rw [lookUp, found]

theorem lookUp_cons_of_notMem {word : String} (unknown : word ∉ list.entries) (position : Nat)
    (rest : List String) :
    lookUp list position (word :: rest) = .error (.unknownWord position) := by
  rw [lookUp, list.position?_eq_none_iff.mpr unknown]

/-- **The first unknown word is reported**, whatever words come after it. -/
theorem lookUp_of_isLeast {index : Nat} (least : IsLeast (unknownPositions list words) index)
    (position : Nat) :
    lookUp list position words = .error (.unknownWord (position + index)) := by
  induction words generalizing index position with
  | nil =>
    obtain ⟨⟨word, here, _⟩, _⟩ := least
    cases here
  | cons word rest ih =>
    obtain ⟨⟨found, here, unknown⟩, bound⟩ := least
    cases index with
    | zero =>
      cases here
      exact lookUp_cons_of_notMem unknown position rest
    | succ index =>
      have known : word ∈ list.entries := by
        by_contra absent
        exact absurd (bound ⟨word, rfl, absent⟩) (Nat.not_succ_le_zero index)
      have later : IsLeast (unknownPositions list rest) index := by
        refine ⟨⟨found, here, unknown⟩, fun other inside => ?_⟩
        obtain ⟨word', here', unknown'⟩ := inside
        exact Nat.le_of_succ_le_succ (bound ⟨word', here', unknown'⟩)
      rw [lookUp_cons_of_mem known, ih later, Nat.add_right_comm, Nat.add_assoc]
      rfl

/-! ## The number that the words spell -/

/-- The number whose digits in base 2048 are the places of the words in the list,
the first word the most significant. -/
def numeral (list : WordList) (words : List String) : Nat :=
  Nat.ofDigits 2048 (words.map list.entries.idxOf).reverse

/-- The octets in front of the checksum. -/
def claimedEntropy (list : WordList) (words : List String) : Octets :=
  Octets.ofNat (4 * (words.length / 3)) (numeral list words / 2 ^ (words.length / 3))

/-- The number that stands where the checksum should. -/
def claimedChecksum (list : WordList) (words : List String) : Nat :=
  numeral list words % 2 ^ (words.length / 3)

/-- The checksum is made of the first bits of the digest of the entropy. -/
def Agrees (list : WordList) (words : List String) : Prop :=
  claimedChecksum list words
    = (sha256 (claimedEntropy list words)).toNat / 2 ^ (256 - words.length / 3)

theorem toNat_packed (known : ∀ word ∈ words, word ∈ list.entries) :
    Bits.toNat (packed (words.map list.entries.idxOf)).toBits = numeral list words := by
  rw [toBits_packed, Bits.toNat_flatMap_ofNat (list.names_map_idxOf known).lt]
  rfl

/-- There is one bit of checksum for three words and one for four octets. -/
theorem third_eq (count : words.length = strength.wordCount) :
    words.length / 3 = strength.checksumBits := by
  rw [count, strength.wordCount_eq]
  omega

theorem four_mul_third (count : words.length = strength.wordCount) :
    8 * (4 * (words.length / 3)) = strength.bits := by
  rw [third_eq count]
  cases strength <;> rfl

theorem length_packed_words (list : WordList) (count : words.length = strength.wordCount) :
    (packed (words.map list.entries.idxOf)).length = strength.bits + strength.checksumBits := by
  rw [length_packed, List.length_map, count, strength.bitsPerWord_mul_wordCount]

section Packed

variable (known : ∀ word ∈ words, word ∈ list.entries)
  (count : words.length = strength.wordCount)

include known count

/-- The bits before the checksum are those of the claimed entropy. -/
theorem ofOctets_claimedEntropy :
    Bits.ofOctets (claimedEntropy list words)
      = (packed (words.map list.entries.idxOf)).toBits.take strength.bits := by
  have length := length_packed_words list count
  have others : (packed (words.map list.entries.idxOf)).toBits.length - strength.bits
      = words.length / 3 := by
    rw [BitString.length_toBits, length, third_eq count, Nat.add_sub_cancel_left]
  have value : numeral list words / 2 ^ (words.length / 3)
      = Bits.toNat ((packed (words.map list.entries.idxOf)).toBits.take strength.bits) := by
    rw [Bits.toNat_take, others, toNat_packed known]
  rw [claimedEntropy, value]
  apply Bits.ofOctets_ofNat_toNat
  rw [List.length_take, BitString.length_toBits, length, four_mul_third count]
  omega

/-- The bits after the entropy spell the claimed checksum. -/
theorem toNat_drop_packed :
    Bits.toNat ((packed (words.map list.entries.idxOf)).toBits.drop strength.bits)
      = claimedChecksum list words := by
  rw [Bits.toNat_drop, BitString.length_toBits, length_packed_words list count,
    Nat.add_sub_cancel_left, toNat_packed known, claimedChecksum, third_eq count]

theorem leadingOctets?_packed :
    (packed (words.map list.entries.idxOf)).leadingOctets? strength.bits
      = some (claimedEntropy list words) := by
  apply (BitString.leadingOctets?_eq_some_iff _ _ _).mpr
  refine ⟨?_, ofOctets_claimedEntropy known count⟩
  rw [length_packed_words list count]
  exact Nat.le_add_right _ _

theorem read?_packed :
    (packed (words.map list.entries.idxOf)).read? strength.bits strength.checksumBits
      = some (claimedChecksum list words) := by
  have length := length_packed_words list count
  have allowed := strength.checksumBits_le_maxWidth
  have all : ((packed (words.map list.entries.idxOf)).toBits.drop strength.bits).length
      ≤ strength.checksumBits := by
    rw [List.length_drop, BitString.length_toBits, length, Nat.add_sub_cancel_left]
  rw [BitString.read?_eq, if_pos ⟨allowed, length.ge⟩, List.take_of_length_le all,
    toNat_drop_packed known count]

/-- **The bits of the words are verified by arithmetic alone**: the octets of the
quotient are accepted when the first bits of their digest are the remainder. -/
theorem verified_packed [Decidable (Agrees list words)] :
    verified strength (packed (words.map list.entries.idxOf)) =
      if Agrees list words then .ok (claimedEntropy list words) else .error .checksum := by
  have compared : strength.checksum (claimedEntropy list words)
      = claimedChecksum list words ↔ Agrees list words := by
    rw [strength.checksum_eq, checksum_eq_div, Agrees, third_eq count]
    exact eq_comm
  rw [verified, leadingOctets?_packed known count]
  simp only [read?_packed known count, compared]

end Packed

/-! ## The order of the conditions -/

section Decode

variable {text : String}

theorem ofWordCount?_eq_none (illegal : words.length ∉ [12, 15, 18, 21, 24]) :
    Strength.ofWordCount? words.length = none := by
  cases found : Strength.ofWordCount? words.length with
  | none => rfl
  | some strength =>
    have count := Strength.wordCount_of_ofWordCount? found
    exact absurd ((Strength.exists_wordCount_eq_iff _).mp ⟨strength, count⟩) illegal

theorem decode_of_illegal (illegal : (Text.words text).length ∉ [12, 15, 18, 21, 24]) :
    decode list text = .error (.wordCount (Text.words text).length) := by
  rw [decode]
  simp only [ofWordCount?_eq_none illegal]

theorem decode_of_unknown (count : (Text.words text).length = strength.wordCount) {index : Nat}
    (least : IsLeast (unknownPositions list (Text.words text)) index) :
    decode list text = .error (.unknownWord index) := by
  rw [decode]
  simp only [count, Strength.ofWordCount?_wordCount, lookUp_of_isLeast least, Nat.zero_add]

theorem decode_of_known (count : (Text.words text).length = strength.wordCount)
    (known : ∀ word ∈ Text.words text, word ∈ list.entries)
    [Decidable (Agrees list (Text.words text))] :
    decode list text =
      if Agrees list (Text.words text) then .ok (claimedEntropy list (Text.words text))
      else .error .checksum := by
  rw [decode]
  simp only [count, Strength.ofWordCount?_wordCount, lookUp_of_known known]
  exact verified_packed known count

/-- The verdicts on words, each with the conditions that lead to it. -/
inductive Verdict (list : WordList) (words : List String) : Except PhraseFault Octets → Prop where
  | wordCount (illegal : words.length ∉ [12, 15, 18, 21, 24]) :
      Verdict list words (.error (.wordCount words.length))
  | unknownWord {position : Nat} (legal : words.length ∈ [12, 15, 18, 21, 24])
      (least : IsLeast (unknownPositions list words) position) :
      Verdict list words (.error (.unknownWord position))
  | checksum (legal : words.length ∈ [12, 15, 18, 21, 24])
      (known : ∀ word ∈ words, word ∈ list.entries) (differs : ¬ Agrees list words) :
      Verdict list words (.error .checksum)
  | valid (legal : words.length ∈ [12, 15, 18, 21, 24])
      (known : ∀ word ∈ words, word ∈ list.entries) (agrees : Agrees list words) :
      Verdict list words (.ok (claimedEntropy list words))

/-! The verdicts of each kind, by their conditions. -/

theorem verdict_wordCount_iff {count : Nat} :
    Verdict list words (.error (.wordCount count)) ↔
      count = words.length ∧ words.length ∉ [12, 15, 18, 21, 24] := by
  constructor
  · intro verdict
    cases verdict with
    | wordCount illegal => exact ⟨rfl, illegal⟩
  · rintro ⟨rfl, illegal⟩
    exact .wordCount illegal

theorem verdict_unknownWord_iff {position : Nat} :
    Verdict list words (.error (.unknownWord position)) ↔
      words.length ∈ [12, 15, 18, 21, 24] ∧ IsLeast (unknownPositions list words) position := by
  constructor
  · intro verdict
    cases verdict with
    | unknownWord legal least => exact ⟨legal, least⟩
  · rintro ⟨legal, least⟩
    exact .unknownWord legal least

theorem verdict_checksum_iff :
    Verdict list words (.error .checksum) ↔
      words.length ∈ [12, 15, 18, 21, 24] ∧ (∀ word ∈ words, word ∈ list.entries) ∧
        ¬ Agrees list words := by
  constructor
  · intro verdict
    cases verdict with
    | checksum legal known differs => exact ⟨legal, known, differs⟩
  · rintro ⟨legal, known, differs⟩
    exact .checksum legal known differs

theorem verdict_ok_iff {octets : Octets} :
    Verdict list words (.ok octets) ↔
      (words.length ∈ [12, 15, 18, 21, 24] ∧ (∀ word ∈ words, word ∈ list.entries) ∧
        Agrees list words) ∧ octets = claimedEntropy list words := by
  constructor
  · intro verdict
    cases verdict with
    | valid legal known agrees => exact ⟨⟨legal, known, agrees⟩, rfl⟩
  · rintro ⟨⟨legal, known, agrees⟩, rfl⟩
    exact .valid legal known agrees

/-- There is a verdict on all words. -/
theorem exists_verdict (list : WordList) (words : List String) :
    ∃ result, Verdict list words result := by
  by_cases legal : words.length ∈ [12, 15, 18, 21, 24]
  · rcases (unknownPositions list words).eq_empty_or_nonempty with none | some
    · have known := unknownPositions_eq_empty_iff.mp none
      by_cases agrees : Agrees list words
      · exact ⟨_, .valid legal known agrees⟩
      · exact ⟨_, .checksum legal known agrees⟩
    · exact ⟨_, .unknownWord legal (isLeast_csInf some)⟩
  · exact ⟨_, .wordCount legal⟩

/-- **Decoding gives the verdict on the words of the text.** -/
theorem decode_eq_iff {result : Except PhraseFault Octets} :
    decode list text = result ↔ Verdict list (Text.words text) result := by
  classical
  have given {result : Except PhraseFault Octets}
      (verdict : Verdict list (Text.words text) result) : decode list text = result := by
    cases verdict with
    | wordCount illegal => exact decode_of_illegal illegal
    | unknownWord legal least =>
      obtain ⟨strength, count⟩ := (Strength.exists_wordCount_eq_iff _).mpr legal
      exact decode_of_unknown count.symm least
    | checksum legal known differs =>
      obtain ⟨strength, count⟩ := (Strength.exists_wordCount_eq_iff _).mpr legal
      rw [decode_of_known count.symm known, if_neg differs]
    | valid legal known agrees =>
      obtain ⟨strength, count⟩ := (Strength.exists_wordCount_eq_iff _).mpr legal
      rw [decode_of_known count.symm known, if_pos agrees]
  refine ⟨?_, given⟩
  rintro rfl
  obtain ⟨result, verdict⟩ := exists_verdict list (Text.words text)
  rw [given verdict]
  exact verdict

/-! ## Checking -/

theorem check_eq_error_iff {fault : PhraseFault} :
    check list text = .error (.phrase fault) ↔ decode list text = .error fault := by
  rw [check, entropy]
  cases decode list text with
  | error other =>
    constructor
    · rintro ⟨⟩
      rfl
    · rintro ⟨⟩
      rfl
  | ok octets =>
    constructor
    · rintro ⟨⟩
    · rintro ⟨⟩

theorem entropy_eq_ok_iff_verdict {octets : Octets} :
    entropy list text = .ok octets ↔ Verdict list (Text.words text) (.ok octets) := by
  rw [entropy_eq_ok_iff, ← decode_eq_ok_iff, decode_eq_iff]

theorem check_eq_ok_iff_agrees :
    check list text = .ok () ↔
      (Text.words text).length ∈ [12, 15, 18, 21, 24] ∧
        (∀ word ∈ Text.words text, word ∈ list.entries) ∧ Agrees list (Text.words text) := by
  rw [check_eq_ok_iff]
  simp only [← decode_eq_ok_iff, decode_eq_iff, verdict_ok_iff, exists_and_left, exists_eq,
    and_true]

/-- **A check reports the first condition that fails.** The number of words is
reported when it is illegal; for a legal number, the first position whose word is not
in the list; for known words, a checksum that does not agree with the entropy. In
every other case the text is valid and the claimed entropy is its entropy. The bits
of known words of a legal number always hold both parts. -/
theorem check_firstFault (list : WordList) (text : String) :
    (∀ count, check list text = .error (.phrase (.wordCount count)) ↔
      count = (Text.words text).length ∧ (Text.words text).length ∉ [12, 15, 18, 21, 24]) ∧
    (∀ position, check list text = .error (.phrase (.unknownWord position)) ↔
      (Text.words text).length ∈ [12, 15, 18, 21, 24] ∧
        IsLeast (unknownPositions list (Text.words text)) position) ∧
    (check list text = .error (.phrase .checksum) ↔
      (Text.words text).length ∈ [12, 15, 18, 21, 24] ∧
        (∀ word ∈ Text.words text, word ∈ list.entries) ∧ ¬ Agrees list (Text.words text)) ∧
    (check list text = .ok () ↔
      (Text.words text).length ∈ [12, 15, 18, 21, 24] ∧
        (∀ word ∈ Text.words text, word ∈ list.entries) ∧ Agrees list (Text.words text)) ∧
    (∀ octets, entropy list text = .ok octets ↔
      check list text = .ok () ∧ octets = claimedEntropy list (Text.words text)) ∧
    (∀ strength values, Strength.ofWordCount? (Text.words text).length = some strength →
      lookUp list 0 (Text.words text) = .ok values →
        (packed values).leadingOctets? strength.bits
            = some (claimedEntropy list (Text.words text)) ∧
          (packed values).read? strength.bits strength.checksumBits
            = some (claimedChecksum list (Text.words text))) := by
  refine ⟨fun count => ?_, fun position => ?_, ?_, check_eq_ok_iff_agrees, fun octets => ?_, ?_⟩
  · rw [check_eq_error_iff, decode_eq_iff, verdict_wordCount_iff]
  · rw [check_eq_error_iff, decode_eq_iff, verdict_unknownWord_iff]
  · rw [check_eq_error_iff, decode_eq_iff, verdict_checksum_iff]
  · rw [entropy_eq_ok_iff_verdict, verdict_ok_iff, check_eq_ok_iff_agrees]
  · intro strength values found read
    have count := (Strength.wordCount_of_ofWordCount? found).symm
    have known := (lookUp_eq_ok_iff.mp read).mem_entries
    rw [lookUp_of_known known] at read
    cases read
    exact ⟨leadingOctets?_packed known count, read?_packed known count⟩

end Decode

end Phrase

end MnemonicCode
