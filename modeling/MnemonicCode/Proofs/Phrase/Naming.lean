import MnemonicCode.Phrase.Checking
import MnemonicCode.Phrase.Encoding
import MnemonicCode.Proofs.Text.Words
import MnemonicCode.Proofs.WordList.Tables
import Mathlib

/-!
# Words as names of values

A word list names each value below 2048 by one word, and no two values by the
same word (`WordList.position?_eq_some_iff`). Values and words correspond when
they do so one for one (`WordList.Names`).

Encoding goes from values to words and checking from words to values. Both
succeed exactly with a corresponding list (`wordsOf_eq_ok_iff`,
`lookUp_eq_ok_iff`), so each of them undoes the other. Values below 2048 all have
words (`WordList.names_map_word`).
-/

set_option autoImplicit false

namespace MnemonicCode.WordList

theorem mem_of_word?_eq_some {list : WordList} {value : Nat} {word : String}
    (named : list.word? value = some word) : word ∈ list.entries :=
  List.mem_of_getElem? named

theorem lt_of_word?_eq_some {list : WordList} {value : Nat} {word : String}
    (named : list.word? value = some word) : value < wordListLength := by
  rw [← list.wellFormed.length_eq]
  exact (List.getElem?_eq_some_iff.mp named).1

/-- The words name the values, one for one. -/
abbrev Names (list : WordList) (values : List Nat) (words : List String) : Prop :=
  List.Forall₂ (fun value word => list.word? value = some word) values words

namespace Names

variable {list : WordList} {values : List Nat} {words : List String}

/-- The words of values are entries of the list. -/
theorem mem_entries (names : list.Names values words) : ∀ word ∈ words, word ∈ list.entries := by
  induction names with
  | nil => simp
  | cons named _ ih =>
    rintro word (_ | ⟨_, later⟩)
    · exact mem_of_word?_eq_some named
    · exact ih word later

/-- A value with a word is below 2048. -/
theorem lt (names : list.Names values words) : ∀ value ∈ values, value < wordListLength := by
  induction names with
  | nil => simp
  | cons named _ ih =>
    rintro value (_ | ⟨_, later⟩)
    · exact lt_of_word?_eq_some named
    · exact ih value later

/-- The values determine the words. -/
theorem words_unique {others : List String} (names : list.Names values words)
    (again : list.Names values others) : words = others := by
  induction names generalizing others with
  | nil =>
    cases again
    rfl
  | cons named _ ih =>
    cases again with
    | cons namedAgain rest =>
      rw [ih rest, Option.some.inj (named.symm.trans namedAgain)]

end Names

/-- The value of eleven bits to which a number reduces. -/
def residue (number : Nat) : Fin wordListLength :=
  ⟨number % wordListLength, Nat.mod_lt number (by decide)⟩

theorem word?_eq_word (list : WordList) {value : Nat} (small : value < wordListLength) :
    list.word? value = some (list.word (residue value)) := by
  have same : residue value = ⟨value, small⟩ := Fin.ext (Nat.mod_eq_of_lt small)
  rw [same]
  exact List.getElem?_eq_getElem (list.lt_length_of_lt small)

/-- Values below 2048 have words. -/
theorem names_map_word (list : WordList) {values : List Nat}
    (small : ∀ value ∈ values, value < wordListLength) :
    list.Names values (values.map fun value => list.word (residue value)) := by
  induction values with
  | nil => exact .nil
  | cons value rest ih =>
    exact .cons (list.word?_eq_word (small value List.mem_cons_self))
      (ih fun other later => small other (List.mem_cons_of_mem _ later))

end MnemonicCode.WordList

namespace MnemonicCode.Phrase

variable {list : WordList} {values : List Nat} {words : List String}

theorem names_of_wordsOf (written : wordsOf list values = .ok words) :
    list.Names values words := by
  induction values generalizing words with
  | nil =>
    cases written
    exact .nil
  | cons value rest ih =>
    rw [wordsOf] at written
    cases named : list.word? value with
    | none =>
      rw [named] at written
      cases written
    | some word =>
      cases later : wordsOf list rest with
      | error fault =>
        rw [named, later] at written
        cases written
      | ok found =>
        rw [named, later] at written
        cases written
        exact .cons named (ih later)

/-- **Values are written as the words that name them.** -/
theorem wordsOf_eq_ok_iff : wordsOf list values = .ok words ↔ list.Names values words := by
  refine ⟨names_of_wordsOf, fun names => ?_⟩
  induction names with
  | nil => rfl
  | cons named _ ih =>
    rw [wordsOf, named, ih]
    rfl

theorem names_of_lookUp {position : Nat} (found : lookUp list position words = .ok values) :
    list.Names values words := by
  induction words generalizing position values with
  | nil =>
    cases found
    exact .nil
  | cons word rest ih =>
    rw [lookUp] at found
    cases place : list.position? word with
    | none =>
      rw [place] at found
      cases found
    | some value =>
      cases later : lookUp list (position + 1) rest with
      | error fault =>
        simp only [place, later] at found
        cases found
      | ok others =>
        simp only [place, later] at found
        cases found
        exact .cons (list.position?_eq_some_iff.mp place) (ih later)

/-- **Words are read as the values that they name**, whatever the position of the
first. -/
theorem lookUp_eq_ok_iff {position : Nat} :
    lookUp list position words = .ok values ↔ list.Names values words := by
  refine ⟨names_of_lookUp, fun names => ?_⟩
  induction names generalizing position with
  | nil => rfl
  | cons named _ ih =>
    rw [lookUp, list.position?_eq_some_iff.mpr named]
    simp only [ih]
    rfl

end MnemonicCode.Phrase
