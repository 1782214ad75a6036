import MnemonicCode.Phrase.Encoding
import MnemonicCode.Text.Words
import Mathlib

/-!
# Joining words and cutting them again

Pieces that hold no separator come back when they are joined by one separator
and cut (`pieces_intercalate`). A word in the sense of this module is a text that
is not empty and holds no blank character. The words of any text are words
(`isWord_of_mem_words`), and words joined by single spaces are cut into the same
words (`words_ofWords`).

The entries of a word list are words (`WordList.isWord_of_mem`), because a blank
character is invisible.
-/

set_option autoImplicit false

namespace MnemonicCode.Text

open Phrase (ofWords)

/-! ## Pieces -/

variable {separates : Char → Bool}

/-- A text without separators is one piece. -/
theorem pieces_eq_singleton {part : List Char} (clean : ∀ c ∈ part, separates c = false) :
    pieces separates part = [part] := by
  induction part with
  | nil => rfl
  | cons c rest ih =>
    obtain ⟨piece, others, same, extended⟩ :=
      pieces_cons_of_not_separates separates rest (clean c List.mem_cons_self)
    rw [ih fun other member => clean other (List.mem_cons_of_mem _ member)] at same
    obtain ⟨rfl, rfl⟩ := List.cons_eq_cons.mp same
    exact extended

/-- The first separator ends the first piece. -/
theorem pieces_append_cons {part : List Char} (clean : ∀ c ∈ part, separates c = false)
    {separator : Char} (ends : separates separator = true) (rest : List Char) :
    pieces separates (part ++ separator :: rest) = part :: pieces separates rest := by
  induction part with
  | nil => exact pieces_cons_of_separates separates rest ends
  | cons c more ih =>
    obtain ⟨piece, others, same, extended⟩ :=
      pieces_cons_of_not_separates separates (more ++ separator :: rest)
        (clean c List.mem_cons_self)
    rw [ih fun other member => clean other (List.mem_cons_of_mem _ member)] at same
    obtain ⟨rfl, rfl⟩ := List.cons_eq_cons.mp same
    exact extended

/-- **Pieces without separators come back when they are joined and cut.** -/
theorem pieces_intercalate {separator : Char} (ends : separates separator = true)
    {parts : List (List Char)} (clean : ∀ part ∈ parts, ∀ c ∈ part, separates c = false)
    (nonempty : parts ≠ []) : pieces separates ([separator].intercalate parts) = parts := by
  induction parts with
  | nil => exact absurd rfl nonempty
  | cons part rest ih =>
    have first := clean part List.mem_cons_self
    cases rest with
    | nil =>
      rw [List.intercalate_singleton]
      exact pieces_eq_singleton first
    | cons next others =>
      have later := ih (fun other member => clean other (List.mem_cons_of_mem _ member))
        (List.cons_ne_nil _ _)
      rw [List.intercalate_cons_cons, List.append_assoc, List.singleton_append,
        pieces_append_cons first ends, later]

/-- A joined text has no other characters than those of the separator and of its parts. -/
theorem mem_intercalate {separator : String} {parts : List String} {c : Char}
    (member : c ∈ (separator.intercalate parts).toList) :
    c ∈ separator.toList ∨ ∃ part ∈ parts, c ∈ part.toList := by
  induction parts with
  | nil => cases member
  | cons part rest ih =>
    cases rest with
    | nil =>
      rw [String.intercalate_singleton] at member
      exact .inr ⟨part, List.mem_cons_self, member⟩
    | cons next others =>
      rw [String.intercalate_cons_cons, String.toList_append, String.toList_append] at member
      rcases List.mem_append.mp member with front | later
      · rcases List.mem_append.mp front with here | between
        · exact .inr ⟨part, List.mem_cons_self, here⟩
        · exact .inl between
      · rcases ih later with between | ⟨other, among, inside⟩
        · exact .inl between
        · exact .inr ⟨other, List.mem_cons_of_mem _ among, inside⟩

/-! ## Words -/

/-- A text that is cut nowhere: it is not empty and holds no blank character. -/
structure IsWord (text : String) : Prop where
  nonempty : text ≠ ""
  solid : ∀ c ∈ text.toList, isBlank c = false

theorem isWord_of_mem_words {text word : String} (member : word ∈ words text) : IsWord word := by
  obtain ⟨piece, inside, rfl⟩ := List.mem_map.mp member
  obtain ⟨here, filled⟩ := List.mem_filter.mp inside
  constructor
  · intro empty
    rw [String.ofList_eq_empty_iff.mp empty] at filled
    cases filled
  · intro c among
    rw [String.toList_ofList] at among
    exact not_separates_of_mem_pieces here among

/-- Parts without separators, joined by single spaces, come back when they are
cut at separators of which the space is one. -/
theorem pieces_ofWords {parts : List String} (ends : separates ' ' = true)
    (clean : ∀ part ∈ parts, ∀ c ∈ part.toList, separates c = false) (nonempty : parts ≠ []) :
    pieces separates (ofWords parts).toList = parts.map String.toList := by
  have joined : (ofWords parts).toList = [' '].intercalate (parts.map String.toList) :=
    String.toList_intercalate
  rw [joined]
  refine pieces_intercalate ends ?_ fun empty => nonempty (List.map_eq_nil_iff.mp empty)
  intro piece member c inside
  obtain ⟨part, among, rfl⟩ := List.mem_map.mp member
  exact clean part among c inside

/-- Words joined by single spaces are the pieces between spaces. -/
theorem pieces_space_ofWords {parts : List String} (clean : ∀ part ∈ parts, IsWord part)
    (nonempty : parts ≠ []) :
    pieces (· == ' ') (ofWords parts).toList = parts.map String.toList := by
  refine pieces_ofWords (beq_self_eq_true ' ') (fun part member c inside => ?_) nonempty
  refine beq_eq_false_iff_ne.mpr ?_
  rintro rfl
  have solid := (clean part member).solid ' ' inside
  rw [isBlank_space] at solid
  cases solid

/-- **Words joined by single spaces are cut into the same words.** -/
theorem words_ofWords {parts : List String} (clean : ∀ part ∈ parts, IsWord part) :
    words (ofWords parts) = parts := by
  by_cases empty : parts = []
  · subst empty
    rfl
  · have cut : pieces isBlank (ofWords parts).toList = parts.map String.toList :=
      pieces_ofWords isBlank_space (fun part member => (clean part member).solid) empty
    have filled : (parts.map String.toList).filter (fun piece => !piece.isEmpty)
        = parts.map String.toList := by
      refine List.filter_eq_self.mpr fun piece member => ?_
      obtain ⟨part, among, rfl⟩ := List.mem_map.mp member
      simpa using (clean part among).nonempty
    rw [words, cut, filled, List.map_map]
    simp [Function.comp_def]

end MnemonicCode.Text

namespace MnemonicCode.WordList

/-- An entry of a word list is a word. -/
theorem isWord_of_mem (list : WordList) {entry : String} (member : entry ∈ list.entries) :
    Text.IsWord entry where
  nonempty := list.wellFormed.nonempty entry member
  solid c inside := by
    refine Bool.eq_false_iff.mpr fun blank => ?_
    have visible := list.wellFormed.visible entry member c inside
    rw [Text.isInvisible_of_isBlank blank] at visible
    cases visible

end MnemonicCode.WordList
