import MnemonicCode.Proofs.Phrase.Coding
import MnemonicCode.WordList.English
import Mathlib

/-!
# Encoding and checking are inverse

Octets of a legal length are always encoded as a phrase that is spaced singly, is
valid, and has these octets as its entropy (`encode_then_entropy`). In the other
direction, a text is valid exactly when its words, joined by single spaces, are
the phrase of some octets, and these are its entropy
(`entropy_eq_ok_iff_encode`); only the spacing of a text is free.

Both hold over every word list, and of the digest they use its length alone.
-/

set_option autoImplicit false

namespace MnemonicCode.Phrase

variable {list : WordList} {octets : Octets}

/-! ## Encoding -/

/-- Octets of a legal length are spelled by some words. -/
theorem exists_spells (list : WordList) (legal : octets.length ∈ [16, 20, 24, 28, 32]) :
    ∃ words, Spells list octets words := by
  obtain ⟨strength, length⟩ := (Strength.exists_octets_eq_iff _).mpr legal
  exact ⟨_, spells_map_word list length.symm⟩

/-- The number of words is the number of bits with the checksum, divided by
eleven. -/
theorem Spells.length_words_eq {words : List String} (spells : Spells list octets words) :
    words.length = (8 * octets.length + 8 * octets.length / 32) / 11 := by
  obtain ⟨strength, length, count⟩ := spells.exists_strength
  rw [count, length]
  cases strength <;> rfl

theorem Spells.ne_nil {words : List String} (spells : Spells list octets words) :
    words ≠ [] := by
  obtain ⟨strength, -, count⟩ := spells.exists_strength
  rintro rfl
  cases strength <;> cases count

/-- The words of an encoded phrase are the words that spell the octets. -/
theorem Spells.words_ofWords {words : List String} (spells : Spells list octets words) :
    Text.words (ofWords words) = words :=
  Text.words_ofWords spells.isWord

/-- Words spell octets exactly when they are the words of the phrase for these
octets. -/
theorem encode_ofWords_eq_ok_iff {words : List String}
    (clean : ∀ word ∈ words, Text.IsWord word) :
    encode list octets = .ok (ofWords words) ↔ Spells list octets words := by
  refine encode_eq_ok_iff.trans ⟨?_, fun spells => ⟨words, spells, rfl⟩⟩
  rintro ⟨others, spells, same⟩
  have cut := congrArg Text.words same
  rw [spells.words_ofWords, Text.words_ofWords clean] at cut
  rwa [cut] at spells

/-! ## Checking -/

theorem entropy_eq_ok_iff {text : String} :
    entropy list text = .ok octets ↔ Spells list octets (Text.words text) := by
  rw [← decode_eq_ok_iff, entropy]
  cases decode list text with
  | error fault =>
    constructor
    · rintro ⟨⟩
    · rintro ⟨⟩
  | ok found =>
    constructor
    · rintro ⟨⟩
      rfl
    · rintro ⟨⟩
      rfl

theorem isValid_iff {text : String} :
    isValid list text = true ↔ ∃ octets, Spells list octets (Text.words text) := by
  rw [isValid]
  cases decoded : decode list text with
  | error fault =>
    constructor
    · rintro ⟨⟩
    · rintro ⟨octets, spells⟩
      rw [decode_eq_ok_iff.mpr spells] at decoded
      cases decoded
  | ok found =>
    constructor
    · intro _
      exact ⟨found, decode_eq_ok_iff.mp decoded⟩
    · intro _
      rfl

theorem check_eq_ok_iff {text : String} :
    check list text = .ok () ↔ ∃ octets, Spells list octets (Text.words text) := by
  rw [check]
  cases found : entropy list text with
  | error failure =>
    constructor
    · rintro ⟨⟩
    · rintro ⟨octets, spells⟩
      rw [entropy_eq_ok_iff.mpr spells] at found
      cases found
  | ok octets =>
    constructor
    · intro _
      exact ⟨octets, entropy_eq_ok_iff.mp found⟩
    · intro _
      rfl

/-! ## The two directions -/

/-- **Checking undoes encoding.** The phrase for octets of a legal length has as
many words as the bits with the checksum need, each an entry of the list and
separated from the next by one space; it is valid, and the octets are its
entropy. -/
theorem encode_then_entropy (list : WordList) (octets : Octets)
    (legal : octets.length ∈ [16, 20, 24, 28, 32]) :
    ∃ phrase, encode list octets = .ok phrase ∧
      (Text.pieces (· == ' ') phrase.toList).length
        = (8 * octets.length + 8 * octets.length / 32) / 11 ∧
      (∀ piece ∈ Text.pieces (· == ' ') phrase.toList,
        piece ≠ [] ∧ String.ofList piece ∈ list.entries) ∧
      isValid list phrase = true ∧ entropy list phrase = .ok octets := by
  obtain ⟨words, spells⟩ := exists_spells list legal
  have cut := Text.pieces_space_ofWords spells.isWord spells.ne_nil
  have back : Spells list octets (Text.words (ofWords words)) := by
    rwa [spells.words_ofWords]
  refine ⟨ofWords words, encode_eq_ok_iff.mpr ⟨words, spells, rfl⟩, ?_, ?_, ?_, ?_⟩
  · rw [cut, List.length_map, spells.length_words_eq]
  · intro piece member
    rw [cut] at member
    obtain ⟨word, among, rfl⟩ := List.mem_map.mp member
    constructor
    · intro empty
      exact (spells.isWord word among).nonempty (String.toList_eq_nil_iff.mp empty)
    · rw [String.ofList_toList]
      exact spells.mem_entries word among
  · exact isValid_iff.mpr ⟨octets, back⟩
  · exact entropy_eq_ok_iff.mpr back

theorem encode_then_entropy_replicate :
    (List.replicate 32 (0x80 : UInt8)).length ∈ [16, 20, 24, 28, 32] ∧
    ∃ phrase, encode WordList.english (List.replicate 32 0x80) = .ok phrase ∧
      (Text.pieces (· == ' ') phrase.toList).length
        = (8 * (List.replicate 32 (0x80 : UInt8)).length
          + 8 * (List.replicate 32 (0x80 : UInt8)).length / 32) / 11 ∧
      (∀ piece ∈ Text.pieces (· == ' ') phrase.toList,
        piece ≠ [] ∧ String.ofList piece ∈ WordList.english.entries) ∧
      isValid WordList.english phrase = true ∧
      entropy WordList.english phrase = .ok (List.replicate 32 0x80) :=
  ⟨by decide, encode_then_entropy WordList.english (List.replicate 32 0x80) (by decide)⟩

/-- **Checking accepts the phrases that encoding gives, whatever their spacing,
and nothing else.** A text has the entropy of which the phrase is made of its
words; it is valid when there is such an entropy; and two texts have an entropy
in common exactly when one is valid and their words are the same. -/
theorem entropy_eq_ok_iff_encode (list : WordList) :
    (∀ text octets, entropy list text = .ok octets ↔
      octets.length ∈ [16, 20, 24, 28, 32] ∧
        encode list octets = .ok (ofWords (Text.words text))) ∧
    (∀ text, isValid list text = true ↔ ∃ octets : Octets,
      octets.length ∈ [16, 20, 24, 28, 32] ∧
        encode list octets = .ok (ofWords (Text.words text))) ∧
    (∀ left right,
      (∃ octets, entropy list left = .ok octets ∧ entropy list right = .ok octets) ↔
        isValid list left = true ∧ Text.words left = Text.words right) := by
  have spelled (text : String) (octets : Octets) :
      Spells list octets (Text.words text) ↔ octets.length ∈ [16, 20, 24, 28, 32] ∧
        encode list octets = .ok (ofWords (Text.words text)) := by
    rw [encode_ofWords_eq_ok_iff fun _ => Text.isWord_of_mem_words]
    exact ⟨fun spells => ⟨spells.legal, spells⟩, And.right⟩
  refine ⟨?_, ?_, ?_⟩
  · intro text octets
    rw [entropy_eq_ok_iff, spelled]
  · intro text
    rw [isValid_iff]
    exact exists_congr (spelled text)
  · intro left right
    rw [isValid_iff]
    simp only [entropy_eq_ok_iff]
    constructor
    · rintro ⟨octets, spells, again⟩
      exact ⟨⟨octets, spells⟩, spells.words_unique again⟩
    · rintro ⟨⟨octets, spells⟩, same⟩
      exact ⟨octets, spells, same ▸ spells⟩

end MnemonicCode.Phrase
