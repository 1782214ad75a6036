import MnemonicCode.Phrasebook
import MnemonicCode.Proofs.Phrase.RoundTrip
import Mathlib

/-!
# Phrases for octets that are drawn

A new phrase is made of the octets that the source has left in a buffer. When the source
fails, its failure is the only outcome; when it does not, there is a phrase of the strength
that was asked for, and it decodes to these octets and to no others
(`Phrasebook.generate_drawn`). A number of bits that is no strength is reported before the
source is asked.

A source that repeats a pattern fills a buffer of any length with the octets of the pattern,
from the first one on and over again (`Randomness.fill_repeating`); without a pattern it fills
it with zeros. What was in the buffer before makes no difference.
-/

set_option autoImplicit false

namespace MnemonicCode

/-! ## Patterns -/

namespace Randomness

/-- The octet at a place of the pattern that is repeated for ever, or zero when there is no
pattern. -/
def repeated (pattern : Octets) (place : Nat) : UInt8 :=
  if filled : 0 < pattern.length then
    pattern.get ⟨place % pattern.length, Nat.mod_lt place filled⟩
  else 0

/-- A round later the octets are the same. -/
theorem repeated_length_add (pattern : Octets) (place : Nat) :
    repeated pattern (pattern.length + place) = repeated pattern place := by
  simp only [repeated, Nat.add_mod_left]

theorem cycle_nil (count : Nat) : cycle [] [] count = (List.range count).map (repeated []) := by
  induction count with
  | zero => rfl
  | succ count ih =>
    rw [cycle, ih, List.range_succ_eq_map, List.map_cons, List.map_map]
    rfl

section Rounds

variable {pattern : Octets}

/-- In the first round the octets are those of the pattern. -/
theorem repeated_of_lt {place : Nat} (inside : place < pattern.length) :
    repeated pattern place = pattern[place] := by
  have filled : 0 < pattern.length := Nat.zero_lt_of_lt inside
  rw [repeated, dif_pos filled]
  simp only [List.get_eq_getElem, Nat.mod_eq_of_lt inside]

/-- At the end of a round the next one begins. -/
theorem cycle_again (filled : 0 < pattern.length) (count : Nat) :
    cycle pattern [] count = cycle pattern pattern count := by
  cases pattern with
  | nil => cases filled
  | cons octet rest => cases count <;> rfl

/-- The cycle goes on with the octets of the repeated pattern, from the place on at which its
round stands. -/
theorem cycle_drop {start : Nat} (inside : start < pattern.length) (count : Nat) :
    cycle pattern (pattern.drop start) count =
      (List.range count).map fun place => repeated pattern (start + place) := by
  induction count generalizing start with
  | zero => cases pattern.drop start <;> rfl
  | succ count ih =>
    have later : cycle pattern (pattern.drop (start + 1)) count =
        (List.range count).map fun place => repeated pattern (start + 1 + place) := by
      by_cases within : start + 1 < pattern.length
      · exact ih within
      · have round : start + 1 = pattern.length := Nat.le_antisymm inside (Nat.not_lt.mp within)
        have filled : 0 < pattern.length := Nat.zero_lt_of_lt inside
        have next := ih filled
        rw [round, List.drop_length, cycle_again filled]
        simpa only [List.drop_zero, Nat.zero_add, repeated_length_add] using next
    have first : repeated pattern (start + 0) = pattern[start] := repeated_of_lt inside
    rw [List.drop_eq_getElem_cons inside, cycle, later, List.range_succ_eq_map, List.map_cons,
      List.map_map, first]
    simp only [Function.comp_def, Nat.succ_eq_add_one, Nat.add_assoc, Nat.add_comm 1]

end Rounds

/-- **A cycle is made of the octets of the repeated pattern.** -/
theorem cycle_eq (pattern : Octets) (count : Nat) :
    cycle pattern pattern count = (List.range count).map (repeated pattern) := by
  cases pattern with
  | nil => exact cycle_nil count
  | cons octet rest =>
    have filled : 0 < (octet :: rest).length := Nat.zero_lt_succ rest.length
    have whole := cycle_drop filled count
    simpa only [List.drop_zero, Nat.zero_add] using whole

/-- A source that repeats a pattern leaves nothing of the buffer as it was. -/
theorem fill_repeating (pattern : Octets) (count : Nat) (buffer : Vector UInt8 count) :
    ∃ octets, (repeating pattern).fill count buffer = .ok octets ∧
      octets.toList = (List.range count).map (repeated pattern) :=
  ⟨_, rfl, cycle_eq pattern count⟩

example : (repeating [1, 2]).fill 5 (Vector.replicate 5 0xaa) = .ok #v[1, 2, 1, 2, 1] := by rfl

end Randomness

namespace Strength

/-- A number that is no strength is reported as it is. -/
theorem ofBits_of_illegal {bits : Nat} (illegal : bits ∉ [128, 160, 192, 224, 256]) :
    ofBits bits = .error (.strength bits) := by
  rw [ofBits]
  split
  · next strength found =>
    have same := List.find?_some found
    exact absurd ((exists_bits_eq_iff bits).mp ⟨strength, beq_iff_eq.mp same⟩) illegal
  · rfl

end Strength

namespace Phrase

/-- Words that spell the octets of a strength are as many as its phrases have. -/
theorem Spells.length_words {list : WordList} {octets : Octets} {words : List String}
    {strength : Strength} (spells : Spells list octets words)
    (length : octets.length = strength.octets) : words.length = strength.wordCount := by
  rw [← (spells.names length).length_eq, length_values length]

end Phrase

namespace Phrasebook

/-! ## New phrases -/

section Generate

variable (book : Phrasebook) {strength : Strength}

/-- The failure of the source is that of the phrase. -/
theorem generate_of_dry {failure : Failure}
    (dry : book.randomness.fill strength.octets (Vector.replicate strength.octets 0) =
      .error failure) :
    book.generate strength = .error failure := by
  rw [generate, dry]

/-- The octets that are drawn are spelled by the words of the phrase. -/
theorem generate_of_drawn {octets : Vector UInt8 strength.octets}
    (drawn : book.randomness.fill strength.octets (Vector.replicate strength.octets 0) =
      .ok octets) :
    ∃ words, Phrase.Spells book.list octets.toList words ∧
      book.generate strength = .ok (Phrase.ofWords words) := by
  have length : octets.toList.length = strength.octets := Vector.length_toList
  have spells := Phrase.spells_map_word book.list length
  refine ⟨_, spells, ?_⟩
  rw [generate, drawn]
  exact Phrase.encode_eq_ok_iff.mpr ⟨_, spells, rfl⟩

/-- The phrase decodes to the octets that are drawn. -/
theorem exists_phrase_of_drawn {octets : Vector UInt8 strength.octets}
    (drawn : book.randomness.fill strength.octets (Vector.replicate strength.octets 0) =
      .ok octets) :
    ∃ phrase, book.generate strength = .ok phrase ∧
      (Text.words phrase).length = strength.wordCount ∧
      Phrase.entropy book.list phrase = .ok octets.toList := by
  obtain ⟨words, spells, made⟩ := book.generate_of_drawn drawn
  refine ⟨Phrase.ofWords words, made, ?_, ?_⟩
  · rw [spells.words_ofWords, spells.length_words Vector.length_toList]
  · rw [Phrase.entropy_eq_ok_iff, spells.words_ofWords]
    exact spells

theorem generateBits_bits (strength : Strength) :
    book.generateBits strength.bits = book.generate strength := by
  rw [generateBits, Strength.ofBits_bits]

/-- A number of bits that is no strength is reported before the source is asked. -/
theorem generateBits_of_illegal {bits : Nat} (illegal : bits ∉ [128, 160, 192, 224, 256]) :
    book.generateBits bits = .error (.strength bits) := by
  rw [generateBits, Strength.ofBits_of_illegal illegal]

end Generate

/-- **A new phrase stands for exactly what the source has delivered.** If the source fails,
its failure is the outcome; if it leaves octets in the buffer, there is a phrase of the
strength that decodes to them. Sources that repeat a pattern fill every buffer with it,
whatever it held before, and the phrase then decodes to the repeated pattern. A number of bits
stands for its strength, and one that is no strength is reported over every source alike. -/
theorem generate_drawn (list : WordList) :
    (∀ (source : Randomness) (strength : Strength),
      (∀ failure,
        source.fill strength.octets (Vector.replicate strength.octets 0) = .error failure →
          generate ⟨list, source⟩ strength = .error failure) ∧
      (∀ octets, source.fill strength.octets (Vector.replicate strength.octets 0) = .ok octets →
        ∃ phrase, generate ⟨list, source⟩ strength = .ok phrase ∧
          (Text.words phrase).length = strength.wordCount ∧
          Phrase.entropy list phrase = .ok octets.toList) ∧
      generateBits ⟨list, source⟩ strength.bits = generate ⟨list, source⟩ strength) ∧
    (∀ (pattern : Octets) (count : Nat) (buffer : Vector UInt8 count),
      ∃ octets, (Randomness.repeating pattern).fill count buffer = .ok octets ∧
        octets.toList = (List.range count).map (Randomness.repeated pattern)) ∧
    (∀ (pattern : Octets) (strength : Strength),
      ∃ phrase, generate ⟨list, .repeating pattern⟩ strength = .ok phrase ∧
        Phrase.entropy list phrase =
          .ok ((List.range strength.octets).map (Randomness.repeated pattern))) ∧
    (∀ bits, bits ∉ [128, 160, 192, 224, 256] → ∀ source,
      generateBits ⟨list, source⟩ bits = .error (.strength bits)) := by
  refine ⟨fun source strength => ⟨?_, ?_, ?_⟩, Randomness.fill_repeating, ?_, ?_⟩
  · intro failure dry
    exact generate_of_dry ⟨list, source⟩ dry
  · intro octets drawn
    exact exists_phrase_of_drawn ⟨list, source⟩ drawn
  · exact generateBits_bits _ strength
  · intro pattern strength
    obtain ⟨octets, drawn, same⟩ := Randomness.fill_repeating pattern strength.octets
      (Vector.replicate strength.octets 0)
    obtain ⟨phrase, made, -, decoded⟩ := exists_phrase_of_drawn ⟨list, .repeating pattern⟩ drawn
    exact ⟨phrase, made, by rw [decoded, same]⟩
  · intro bits illegal source
    exact generateBits_of_illegal ⟨list, source⟩ illegal

end Phrasebook

end MnemonicCode
