import MnemonicCode.Proofs.Phrase.Verdict
import MnemonicCode.WordList.English
import Mathlib

/-!
# The last word of a phrase

When all words but the last are chosen, the last one is left with the final bits of
the entropy and with the whole checksum: of its eleven bits, as many as a third of
the number of words belong to the checksum. The other bits decide the block of
values in which the word lies, and with them the entropy is complete. So each block
has exactly one word that ends the phrase, and the checksum refuses all others of
the block (`check_lastWord`). There are as many last words as blocks.
-/

set_option autoImplicit false

namespace MnemonicCode

namespace WordList

theorem word_mem_entries (list : WordList) (value : Fin wordListLength) :
    list.word value ∈ list.entries :=
  List.get_mem _ _

/-- A value is the place of its word. -/
theorem idxOf_word (list : WordList) (value : Fin wordListLength) :
    list.entries.idxOf (list.word value) = value.val :=
  list.wellFormed.nodup.idxOf_getElem value.val _

end WordList

namespace Phrase

variable {list : WordList} {first : List String} {n : Nat}

/-! ## Completing a phrase -/

/-- The phrase of the words chosen first and the word of a value. -/
def completed (list : WordList) (first : List String) (value : Fin wordListLength) : String :=
  ofWords (first ++ [list.word value])

theorem known_append_word (known : ∀ word ∈ first, word ∈ list.entries)
    (value : Fin wordListLength) :
    ∀ word ∈ first ++ [list.word value], word ∈ list.entries := by
  intro word member
  rcases List.mem_append.mp member with before | last
  · exact known word before
  · rw [List.mem_singleton.mp last]
    exact list.word_mem_entries value

theorem words_completed (known : ∀ word ∈ first, word ∈ list.entries)
    (value : Fin wordListLength) :
    Text.words (completed list first value) = first ++ [list.word value] :=
  Text.words_ofWords fun word member =>
    list.isWord_of_mem (known_append_word known value word member)

/-- One more word adds one more digit. -/
theorem numeral_append_word (list : WordList) (first : List String)
    (value : Fin wordListLength) :
    numeral list (first ++ [list.word value]) = numeral list first * 2048 + value.val := by
  rw [numeral, List.map_append, List.map_singleton, list.idxOf_word, List.reverse_append,
    List.reverse_singleton, List.singleton_append, Nat.ofDigits_cons, numeral]
  ring

/-! ## The two parts of the last word -/

/-- The entropy when the last word lies in a block. -/
def blockEntropy (list : WordList) (first : List String) (n block : Nat) : Octets :=
  Octets.ofNat (4 * (n / 3)) (numeral list first * 2 ^ (11 - n / 3) + block)

/-- The checksum that the last word needs in a block. -/
def blockChecksum (list : WordList) (first : List String) (n block : Nat) : Nat :=
  (sha256 (blockEntropy list first n block)).toNat / 2 ^ (256 - n / 3)

theorem third_le (legal : n ∈ [12, 15, 18, 21, 24]) : n / 3 ≤ 8 := by
  simp only [List.mem_cons, List.not_mem_nil, or_false] at legal
  omega

theorem blockChecksum_lt (legal : n ∈ [12, 15, 18, 21, 24]) (block : Nat) :
    blockChecksum list first n block < 2 ^ (n / 3) := by
  have small : n / 3 ≤ 256 := (third_le legal).trans (by decide)
  rw [blockChecksum, ← checksum_eq_div]
  exact checksum_lt _ small

/-- The blocks share all values out among them. -/
theorem blocks_mul_width (legal : n ∈ [12, 15, 18, 21, 24]) :
    2 ^ (11 - n / 3) * 2 ^ (n / 3) = 2048 := by
  have small := third_le legal
  rw [← pow_add, Nat.sub_add_cancel (small.trans (by decide))]
  rfl

/-- The bits of the last word that belong to the checksum have to be the checksum
for the block that the others decide. -/
theorem agrees_append_word_iff (legal : n ∈ [12, 15, 18, 21, 24]) (length : first.length + 1 = n)
    (value : Fin wordListLength) :
    Agrees list (first ++ [list.word value]) ↔
      value.val % 2 ^ (n / 3) = blockChecksum list first n (value.val / 2 ^ (n / 3)) := by
  have count : (first ++ [list.word value]).length = n := by
    rw [List.length_append, List.length_singleton, length]
  have digits : numeral list (first ++ [list.word value])
      = value.val + numeral list first * 2 ^ (11 - n / 3) * 2 ^ (n / 3) := by
    rw [numeral_append_word, Nat.mul_assoc, blocks_mul_width legal, Nat.add_comm]
  have quotient : numeral list (first ++ [list.word value]) / 2 ^ (n / 3)
      = numeral list first * 2 ^ (11 - n / 3) + value.val / 2 ^ (n / 3) := by
    rw [digits, Nat.add_mul_div_right _ _ (by positivity), Nat.add_comm]
  have remainder : numeral list (first ++ [list.word value]) % 2 ^ (n / 3)
      = value.val % 2 ^ (n / 3) := by
    rw [digits, Nat.add_mul_mod_self_right]
  rw [Agrees, claimedChecksum, claimedEntropy, count, remainder, quotient]
  rfl

theorem check_completed (known : ∀ word ∈ first, word ∈ list.entries)
    (legal : n ∈ [12, 15, 18, 21, 24]) (length : first.length + 1 = n)
    (value : Fin wordListLength) :
    check list (completed list first value) =
      if value.val % 2 ^ (n / 3) = blockChecksum list first n (value.val / 2 ^ (n / 3)) then
        .ok ()
      else .error (.phrase .checksum) := by
  have words := words_completed known value
  have count : (Text.words (completed list first value)).length ∈ [12, 15, 18, 21, 24] := by
    rw [words, List.length_append, List.length_singleton, length]
    exact legal
  have all : ∀ word ∈ Text.words (completed list first value), word ∈ list.entries := by
    rw [words]
    exact known_append_word known value
  split
  · next agrees =>
    refine check_eq_ok_iff_agrees.mpr ⟨count, all, ?_⟩
    rw [words]
    exact (agrees_append_word_iff legal length value).mpr agrees
  · next differs =>
    refine check_eq_error_iff.mpr (decode_eq_iff.mpr (.checksum count all ?_))
    rw [words]
    exact fun agrees => differs ((agrees_append_word_iff legal length value).mp agrees)

/-! ## Blocks -/

/-- In a block, the quotient of all values is its number. -/
theorem div_eq_of_mem_block {width block value : Nat} (low : block * width ≤ value)
    (high : value < block * width + width) : value / width = block := by
  apply Nat.div_eq_of_lt_le low
  rw [Nat.succ_mul]
  exact high

/-- The value in a block whose last bits are the checksum of the block. -/
def lastValue (list : WordList) (first : List String) (n block : Nat) : Nat :=
  block * 2 ^ (n / 3) + blockChecksum list first n block

theorem lastValue_mem_block (list : WordList) (first : List String)
    (legal : n ∈ [12, 15, 18, 21, 24]) (block : Nat) :
    block * 2 ^ (n / 3) ≤ lastValue list first n block ∧
      lastValue list first n block < block * 2 ^ (n / 3) + 2 ^ (n / 3) :=
  ⟨Nat.le_add_right _ _, Nat.add_lt_add_left (blockChecksum_lt legal block) _⟩

theorem lastValue_lt (legal : n ∈ [12, 15, 18, 21, 24]) {block : Nat}
    (inside : block < 2 ^ (11 - n / 3)) : lastValue list first n block < wordListLength := by
  have high := (lastValue_mem_block list first legal block).2
  have bound : (block + 1) * 2 ^ (n / 3) ≤ 2 ^ (11 - n / 3) * 2 ^ (n / 3) :=
    Nat.mul_le_mul_right _ inside
  rw [blocks_mul_width legal, Nat.succ_mul] at bound
  exact high.trans_le bound

/-- A value passes exactly when it is the one of its block whose last bits are the
checksum. -/
theorem mod_eq_iff_eq_lastValue {value : Nat} :
    value % 2 ^ (n / 3) = blockChecksum list first n (value / 2 ^ (n / 3)) ↔
      value = lastValue list first n (value / 2 ^ (n / 3)) := by
  have parts := Nat.div_add_mod' value (2 ^ (n / 3))
  rw [lastValue]
  omega

theorem lastValue_div (legal : n ∈ [12, 15, 18, 21, 24]) (block : Nat) :
    lastValue list first n block / 2 ^ (n / 3) = block := by
  obtain ⟨low, high⟩ := lastValue_mem_block list first legal block
  exact div_eq_of_mem_block low high

theorem check_completed_eq_ok_iff (known : ∀ word ∈ first, word ∈ list.entries)
    (legal : n ∈ [12, 15, 18, 21, 24]) (length : first.length + 1 = n)
    (value : Fin wordListLength) :
    check list (completed list first value) = .ok () ↔
      value.val = lastValue list first n (value.val / 2 ^ (n / 3)) := by
  rw [check_completed known legal length, ← mod_eq_iff_eq_lastValue]
  split
  · next agrees => simp only [agrees]
  · next differs =>
    constructor
    · rintro ⟨⟩
    · exact fun agrees => absurd agrees differs

/-- There are as many last words as blocks. -/
theorem card_lastWords (known : ∀ word ∈ first, word ∈ list.entries)
    (legal : n ∈ [12, 15, 18, 21, 24]) (length : first.length + 1 = n) :
    (Finset.univ.filter fun value : Fin wordListLength =>
      check list (completed list first value) = .ok ()).card = 2 ^ (11 - n / 3) := by
  rw [← Finset.card_range (2 ^ (11 - n / 3))]
  -- A value goes to its block, and a block to the one value in it that passes.
  refine Finset.card_nbij' (fun value => value.val / 2 ^ (n / 3))
    (fun block => WordList.residue (lastValue list first n block)) ?_ ?_ ?_ ?_
  · intro value _
    rw [Finset.mem_coe, Finset.mem_range]
    apply Nat.div_lt_of_lt_mul
    rw [Nat.mul_comm, blocks_mul_width legal]
    exact value.isLt
  · intro block inside
    rw [Finset.mem_coe, Finset.mem_range] at inside
    rw [Finset.mem_coe, Finset.mem_filter, check_completed_eq_ok_iff known legal length]
    refine ⟨Finset.mem_univ _, ?_⟩
    have here : (WordList.residue (lastValue list first n block)).val
        = lastValue list first n block := Nat.mod_eq_of_lt (lastValue_lt legal inside)
    rw [here, lastValue_div legal]
  · intro value passes
    rw [Finset.mem_coe, Finset.mem_filter, check_completed_eq_ok_iff known legal length] at passes
    apply Fin.ext
    exact (Nat.mod_eq_of_lt (passes.2 ▸ value.isLt)).trans passes.2.symm
  · intro block inside
    rw [Finset.mem_coe, Finset.mem_range] at inside
    have here : (WordList.residue (lastValue list first n block)).val
        = lastValue list first n block := Nat.mod_eq_of_lt (lastValue_lt legal inside)
    change (WordList.residue (lastValue list first n block)).val / 2 ^ (n / 3) = block
    rw [here, lastValue_div legal]

/-- **Every block of values has exactly one word that ends the phrase.** For words
that are chosen before the last one and leave a legal number of words, the last bits
of a value, one for every three words, belong to the checksum. Of the values that
agree in the other bits, one gives a valid phrase, and all others are refused for
their checksum. So a phrase can be ended by one word for each choice of these other
bits, whatever the words before. -/
theorem check_lastWord (list : WordList) {first : List String} {n : Nat}
    (known : ∀ word ∈ first, word ∈ list.entries) (legal : n ∈ [12, 15, 18, 21, 24])
    (length : first.length + 1 = n) :
    (∀ block < 2 ^ (11 - n / 3), ∃ value : Fin wordListLength,
      (block * 2 ^ (n / 3) ≤ value.val ∧ value.val < block * 2 ^ (n / 3) + 2 ^ (n / 3)) ∧
      check list (ofWords (first ++ [list.word value])) = .ok () ∧
      ∀ other : Fin wordListLength,
        block * 2 ^ (n / 3) ≤ other.val → other.val < block * 2 ^ (n / 3) + 2 ^ (n / 3) →
        other ≠ value →
        check list (ofWords (first ++ [list.word other])) = .error (.phrase .checksum)) ∧
    (Finset.univ.filter fun value : Fin wordListLength =>
      check list (ofWords (first ++ [list.word value])) = .ok ()).card = 2 ^ (11 - n / 3) := by
  refine ⟨fun block inside => ?_, card_lastWords known legal length⟩
  refine ⟨⟨lastValue list first n block, lastValue_lt legal inside⟩,
    lastValue_mem_block list first legal block, ?_, ?_⟩
  · apply (check_completed_eq_ok_iff known legal length _).mpr
    rw [lastValue_div legal]
  · intro other low high differs
    have refused : ¬ other.val % 2 ^ (n / 3)
        = blockChecksum list first n (other.val / 2 ^ (n / 3)) := by
      rw [mod_eq_iff_eq_lastValue, div_eq_of_mem_block low high]
      exact fun same => differs (Fin.ext same)
    exact (check_completed known legal length other).trans (if_neg refused)

theorem check_lastWord_zoo :
    (∀ word ∈ List.replicate 23 "zoo", word ∈ WordList.english.entries) ∧
    24 ∈ [12, 15, 18, 21, 24] ∧ (List.replicate 23 "zoo").length + 1 = 24 ∧
    (∀ block < 2 ^ 3, ∃ value : Fin wordListLength,
      (block * 2 ^ 8 ≤ value.val ∧ value.val < block * 2 ^ 8 + 2 ^ 8) ∧
      check WordList.english
        (ofWords (List.replicate 23 "zoo" ++ [WordList.english.word value])) = .ok () ∧
      ∀ other : Fin wordListLength,
        block * 2 ^ 8 ≤ other.val → other.val < block * 2 ^ 8 + 2 ^ 8 → other ≠ value →
        check WordList.english
            (ofWords (List.replicate 23 "zoo" ++ [WordList.english.word other]))
          = .error (.phrase .checksum)) ∧
    (Finset.univ.filter fun value : Fin wordListLength =>
      check WordList.english
        (ofWords (List.replicate 23 "zoo" ++ [WordList.english.word value])) = .ok ()).card
      = 2 ^ 3 := by
  have known : ∀ word ∈ List.replicate 23 "zoo", word ∈ WordList.english.entries := by
    intro word member
    rw [List.eq_of_mem_replicate member]
    decide +kernel
  exact ⟨known, by decide, rfl, check_lastWord WordList.english known (by decide) rfl⟩

end Phrase

end MnemonicCode
