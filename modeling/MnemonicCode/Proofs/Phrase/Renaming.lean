import MnemonicCode.Proofs.Phrase.Digits
import MnemonicCode.Proofs.Phrase.Verdict
import MnemonicCode.WordList.English
import Mathlib

/-!
# Phrases over another word list

A word of one list is renamed to the word that has its value in another list
(`WordList.renamed`). Renamed words name the same values (`WordList.Names.renamed`), and
values are all that encoding and checking know of words. So every step commutes with
renaming: the words that spell octets (`Spells.renamed`), looking words up
(`lookUp_renamed`) and decoding a text (`decode_renamed`).

Hence a word list is only a naming (`encode_check_renamed`). The phrase for octets over
one list is the renamed phrase over the other, octets of no legal length have none over
either, and words have the same entropy, or the same fault at the same position, as their
renamings. Nothing depends on how the words of the two lists are spelled.
-/

set_option autoImplicit false

namespace MnemonicCode

namespace WordList

variable {source target : WordList} {word : String} {value : Nat}

/-! ## Renaming words -/

/-- The word of `target` for the value that `word` has in `source`. What is no word of
`source` stays as it is. -/
def renamed (source target : WordList) (word : String) : String :=
  ((source.position? word).bind target.word?).getD word

/-- A value that a word names in one list is named by the renamed word in the other. -/
theorem word?_renamed (named : source.word? value = some word) :
    target.word? value = some (source.renamed target word) := by
  have found : source.position? word = some value := source.position?_eq_some_iff.mpr named
  have other := target.word?_eq_word (lt_of_word?_eq_some named)
  rw [renamed, found, Option.bind_some, other, Option.getD_some]

/-- A word of the list has a value, and the renamed word is the word for it. -/
theorem exists_value_of_mem (target : WordList) (known : word ∈ source.entries) :
    ∃ value, source.position? word = some value ∧
      target.word? value = some (source.renamed target word) := by
  obtain ⟨value, named⟩ := List.mem_iff_getElem?.mp known
  exact ⟨value, source.position?_eq_some_iff.mpr named, word?_renamed named⟩

theorem renamed_mem_entries (target : WordList) (known : word ∈ source.entries) :
    source.renamed target word ∈ target.entries := by
  obtain ⟨value, -, named⟩ := exists_value_of_mem target known
  exact mem_of_word?_eq_some named

/-- **Renamed words name the same values.** -/
theorem Names.renamed {values : List Nat} {words : List String}
    (names : source.Names values words) :
    target.Names values (words.map (source.renamed target)) := by
  rw [Names, List.forall₂_map_right_iff]
  exact names.imp fun _ _ named => word?_renamed named

/-! ## The list backwards -/

/-- Entries make a word list in the opposite order too. -/
theorem WellFormed.reverse {entries : List String} (wellFormed : WellFormed entries) :
    WellFormed entries.reverse where
  length_eq := by rw [List.length_reverse, wellFormed.length_eq]
  nonempty entry member := wellFormed.nonempty entry (List.mem_reverse.mp member)
  visible entry member := wellFormed.visible entry (List.mem_reverse.mp member)
  nodup := List.nodup_reverse.mpr wellFormed.nodup

/-- The list with the same words in the opposite order. -/
def backwards (list : WordList) : WordList :=
  ofWellFormed list.entries.reverse list.wellFormed.reverse

end WordList

namespace Phrase

variable {source target : WordList} {words : List String} {octets : Octets}

/-! ## Encoding -/

theorem Spells.renamed (spells : Spells source octets words) :
    Spells target octets (words.map (source.renamed target)) := by
  obtain ⟨strength, length, names⟩ := spells
  exact ⟨strength, length, names.renamed⟩

/-- The phrase with each of its words renamed. -/
def renamed (source target : WordList) (phrase : String) : String :=
  ofWords ((Text.words phrase).map (source.renamed target))

/-- Octets of a legal length are encoded over both lists, as words and as their renamings. -/
theorem exists_encode_renamed (source target : WordList)
    (legal : octets.length ∈ [16, 20, 24, 28, 32]) :
    ∃ words, Spells source octets words ∧ encode source octets = .ok (ofWords words) ∧
      encode target octets = .ok (ofWords (words.map (source.renamed target))) := by
  obtain ⟨words, spells⟩ := exists_spells source legal
  exact ⟨words, spells, encode_eq_ok_iff.mpr ⟨words, spells, rfl⟩,
    encode_eq_ok_iff.mpr ⟨_, spells.renamed, rfl⟩⟩

/-- Encoding commutes with renaming, and fails for the same octets. -/
theorem encode_renamed (source target : WordList) (octets : Octets) :
    encode target octets = (encode source octets).map (renamed source target) := by
  by_cases legal : octets.length ∈ [16, 20, 24, 28, 32]
  · obtain ⟨words, spells, written, rewritten⟩ := exists_encode_renamed source target legal
    rw [rewritten, written, Except.map, renamed, spells.words_ofWords]
  · rw [encode_eq_error target legal, encode_eq_error source legal]
    rfl

/-! ## Checking -/

section Known

variable (known : ∀ word ∈ words, word ∈ source.entries)

include known

/-- Words are looked up as the same values, whatever the position of the first. -/
theorem lookUp_renamed (position : Nat) :
    lookUp target position (words.map (source.renamed target)) =
      lookUp source position words := by
  rw [lookUp_of_known known]
  exact lookUp_eq_ok_iff.mpr (source.names_map_idxOf known).renamed

theorem renamed_known (target : WordList) :
    ∀ word ∈ words.map (source.renamed target), word ∈ target.entries := by
  intro word member
  obtain ⟨word, among, rfl⟩ := List.mem_map.mp member
  exact WordList.renamed_mem_entries target (known word among)

theorem words_ofWords_of_known : Text.words (ofWords words) = words :=
  Text.words_ofWords fun word member => source.isWord_of_mem (known word member)

end Known

/-- **Decoding looks at the values of the words and at nothing else**: a text has the
outcome of another text over another list when its words are the renamed words. -/
theorem decode_renamed {text other : String}
    (known : ∀ word ∈ Text.words text, word ∈ source.entries)
    (same : Text.words other = (Text.words text).map (source.renamed target)) :
    decode target other = decode source text := by
  rw [decode, decode, same]
  simp only [List.length_map, lookUp_renamed known]

theorem decode_ofWords_renamed (known : ∀ word ∈ words, word ∈ source.entries) :
    decode target (ofWords (words.map (source.renamed target))) =
      decode source (ofWords words) := by
  have cut := words_ofWords_of_known known
  have cutRenamed := words_ofWords_of_known (renamed_known known target)
  apply decode_renamed
  · rwa [cut]
  · rw [cutRenamed, cut]

/-! ## Both directions -/

/-- **A word list is only a naming of values.** Let words be renamed from one list to
another, each to the word that has its value there. Octets are encoded over the other list
as the renamed phrase. If they have a legal length, both lists have a phrase for them, one
made of the words that spell the octets and the other of their renamings; otherwise both
fail, and for the same number of bits. Words of the first list, however many, are checked
and have their entropy as the renamed words do over the other list, with the same fault if
there is one. -/
theorem encode_check_renamed (source target : WordList) :
    (∀ word ∈ source.entries, ∃ value, source.position? word = some value ∧
      target.word? value = some (source.renamed target word)) ∧
    (∀ octets, encode target octets = (encode source octets).map (renamed source target)) ∧
    (∀ octets : Octets, octets.length ∈ [16, 20, 24, 28, 32] →
      ∃ words, Spells source octets words ∧ encode source octets = .ok (ofWords words) ∧
        encode target octets = .ok (ofWords (words.map (source.renamed target)))) ∧
    (∀ octets : Octets, octets.length ∉ [16, 20, 24, 28, 32] →
      encode source octets = .error (.strength (quotedBits octets.length)) ∧
        encode target octets = .error (.strength (quotedBits octets.length))) ∧
    ∀ words, (∀ word ∈ words, word ∈ source.entries) →
      check target (ofWords (words.map (source.renamed target))) =
        check source (ofWords words) ∧
      entropy target (ofWords (words.map (source.renamed target))) =
        entropy source (ofWords words) := by
  refine ⟨fun word known => WordList.exists_value_of_mem target known,
    encode_renamed source target, fun octets => exists_encode_renamed source target, ?_, ?_⟩
  · intro octets illegal
    exact ⟨encode_eq_error source illegal, encode_eq_error target illegal⟩
  · intro words known
    have same : entropy target (ofWords (words.map (source.renamed target))) =
        entropy source (ofWords words) := by
      rw [entropy, entropy, decode_ofWords_renamed known]
    refine ⟨?_, same⟩
    rw [check, check, same]

theorem encode_check_renamed_backwards :
    (∀ word ∈ List.replicate 13 "zoo", word ∈ WordList.english.entries) ∧
      WordList.english.renamed WordList.english.backwards "zoo" = "abandon" ∧
      (List.replicate 16 (0xff : UInt8)).length ∈ [16, 20, 24, 28, 32] ∧
      (∃ words, Spells WordList.english (List.replicate 16 0xff) words ∧
        encode WordList.english (List.replicate 16 0xff) = .ok (ofWords words) ∧
        encode WordList.english.backwards (List.replicate 16 0xff) =
          .ok (ofWords (words.map (WordList.english.renamed WordList.english.backwards)))) ∧
      (List.replicate 17 (0xff : UInt8)).length ∉ [16, 20, 24, 28, 32] ∧
      encode WordList.english (List.replicate 17 0xff) = .error (.strength 136) ∧
      encode WordList.english.backwards (List.replicate 17 0xff) = .error (.strength 136) ∧
      check WordList.english.backwards (ofWords (List.replicate 13 "abandon")) =
        check WordList.english (ofWords (List.replicate 13 "zoo")) ∧
      entropy WordList.english.backwards (ofWords (List.replicate 13 "abandon")) =
        entropy WordList.english (ofWords (List.replicate 13 "zoo")) := by
  have last : WordList.english.word? 2047 = some "zoo" := by decide +kernel
  have first : WordList.english.backwards.word? 2047 = some "abandon" := by decide +kernel
  have turned : WordList.english.renamed WordList.english.backwards "zoo" = "abandon" :=
    Option.some.inj ((WordList.word?_renamed last).symm.trans first)
  have known : ∀ word ∈ List.replicate 13 "zoo", word ∈ WordList.english.entries := by
    intro word member
    rw [List.eq_of_mem_replicate member]
    exact WordList.mem_of_word?_eq_some last
  have legal : (List.replicate 16 (0xff : UInt8)).length ∈ [16, 20, 24, 28, 32] := by decide
  have illegal : (List.replicate 17 (0xff : UInt8)).length ∉ [16, 20, 24, 28, 32] := by decide
  obtain ⟨-, -, written, refused, checked⟩ :=
    encode_check_renamed WordList.english WordList.english.backwards
  obtain ⟨refusedHere, refusedThere⟩ := refused _ illegal
  have alike := checked (List.replicate 13 "zoo") known
  rw [List.map_replicate, turned] at alike
  exact ⟨known, turned, legal, written _ legal, illegal, refusedHere, refusedThere, alike⟩

end Phrase

end MnemonicCode
