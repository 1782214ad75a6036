import MnemonicCode.Proofs.WordList.Schema
import Mathlib

/-!
# The two tables of a word list

A word list is looked up in two directions: values in its entries, words in the table
that the scan of the entries leaves behind. While the scan goes on, the table finds each
entry seen so far at its place and finds nothing else (`WordList.Indexes`). An entry is
added only if the table does not know it, so it never takes the place of an earlier one,
and what the table found before it still finds (`WordList.Indexes.insert`). Hence the
table indexes all entries at the end (`WordList.Indexes.scan`).

The two directions are therefore inverse to each other in every word list that can be
made, and each of them determines the list (`WordList.lookups_inverse`).
-/

set_option autoImplicit false

namespace MnemonicCode.WordList

/-! ## The table while the entries are scanned -/

/-- The table finds every entry at its place, and finds nothing else. -/
def Indexes (table : Table) (entries : List String) : Prop :=
  ∀ (word : String) (place : Nat), table[word]? = some place ↔ entries[place]? = some word

/-- What stands at a place after one more entry stood there before, or is this entry. -/
theorem getElem?_concat_eq_some_iff {seen : List String} {entry word : String} {place : Nat} :
    (seen ++ [entry])[place]? = some word ↔
      seen[place]? = some word ∨ place = seen.length ∧ entry = word := by
  rcases Nat.lt_trichotomy place seen.length with before | here | after
  · rw [List.getElem?_append_left before]
    have apart : ¬ place = seen.length := Nat.ne_of_lt before
    simp [apart]
  · subst here
    simp
  · have apart : ¬ place = seen.length := Nat.ne_of_gt after
    have outside : (seen ++ [entry]).length ≤ place := by
      rw [List.length_append, List.length_singleton]
      exact after
    rw [List.getElem?_eq_none outside, List.getElem?_eq_none (Nat.le_of_lt after)]
    simp [apart]

namespace Indexes

variable {table result : Table} {seen rest : List String} {entry : String}

/-- Before the scan there is nothing to find. -/
theorem empty : Indexes ∅ [] := by
  intro word place
  rw [Std.HashMap.getElem?_empty, List.getElem?_nil]
  constructor <;> intro found <;> cases found

/-- One step of the scan: the new entry is found behind the others, and what was found
before still is, because the table did not know the entry. -/
theorem insert (indexes : Indexes table seen) (fresh : table[entry]? = none) :
    Indexes (table.insert entry seen.length) (seen ++ [entry]) := by
  intro word place
  rw [Std.HashMap.getElem?_insert, getElem?_concat_eq_some_iff, ← indexes word place]
  by_cases here : entry = word
  · subst here
    simp [fresh, eq_comm]
  · simp [here]

/-- **A scan that passes leaves a table of all entries behind**, if it started with a
table of those before. -/
theorem scan (indexes : Indexes table seen)
    (passed : WordList.scan seen.length table rest = .ok result) :
    Indexes result (seen ++ rest) := by
  induction rest generalizing seen table with
  | nil =>
    cases passed
    rw [List.append_nil]
    exact indexes
  | cons entry rest ih =>
    obtain ⟨-, clean, -⟩ := scan_eq_ok_iff.mp passed
    obtain ⟨visible, fresh⟩ := clean entry List.mem_cons_self
    rw [scan_cons_of_isVisible visible fresh] at passed
    rw [List.append_cons]
    apply ih (indexes.insert fresh)
    rw [List.length_append, List.length_singleton]
    exact passed

end Indexes

/-! ## Both directions -/

section Lookups

variable (list : WordList)

/-- The table of a word list indexes its entries. -/
theorem indexes : Indexes list.positions list.entries :=
  Indexes.empty.scan list.scan_entries

/-- The table and the entries of a word list are inverse to each other. -/
theorem position?_eq_some_iff {word : String} {value : Nat} :
    list.position? word = some value ↔ list.word? value = some word :=
  list.indexes word value

/-- The words without a value are those that do not stand in the list. -/
theorem position?_eq_none_iff {word : String} :
    list.position? word = none ↔ word ∉ list.entries := by
  rw [Option.eq_none_iff_forall_ne_some, List.mem_iff_getElem?, not_exists]
  exact forall_congr' fun _ => not_congr list.position?_eq_some_iff

/-- The values with a word are those of eleven bits. -/
theorem isSome_word?_iff {value : Nat} :
    (list.word? value).isSome ↔ value < wordListLength := by
  rw [word?, ← list.wellFormed.length_eq]
  simp

/-- The words in the list are those with a value. -/
theorem contains_iff {word : String} :
    list.contains word ↔ (list.position? word).isSome := by
  rw [contains, Std.HashMap.contains_eq_isSome_getElem?]
  rfl

variable (left right : WordList)

/-- Lists count as the same when their entries are the same. -/
theorem beq_iff : left == right ↔ left.entries = right.entries := by
  constructor
  · intro same
    exact beq_iff_eq.mp (Bool.and_eq_true_iff.mp same).1
  · intro same
    rw [entries_inj same]
    exact Bool.and_eq_true_iff.mpr ⟨beq_self_eq_true _, Std.HashMap.Equiv.beq (.refl _)⟩

/-- Entries are the same when each value has the same word in both lists. -/
theorem entries_eq_iff : left.entries = right.entries ↔
    ∀ value < wordListLength, left.word? value = right.word? value := by
  constructor
  · intro same value _
    rw [word?, word?, same]
  · intro same
    apply List.ext_getElem?
    intro value
    by_cases small : value < wordListLength
    · exact same value small
    · have large : ∀ list : WordList, list.entries[value]? = none := by
        intro list
        rw [List.getElem?_eq_none_iff, list.wellFormed.length_eq]
        exact Nat.le_of_not_lt small
      rw [large left, large right]

end Lookups

/-- **The two lookups of a word list are inverse to each other.** Every list is made of
entries, namely of its own. It has a word for each value of eleven bits and for no other;
a word has a value exactly when it is the word for this value; the words in the list are
those with a value. Lists count as the same, with their entries and tables compared,
exactly when they have the same words for the same values. -/
theorem lookups_inverse (list : WordList) :
    (∀ entries, ofEntries entries = .ok list ↔ entries = list.entries) ∧
      (∀ value, (list.word? value).isSome ↔ value < wordListLength) ∧
      (∀ word value, list.position? word = some value ↔ list.word? value = some word) ∧
      (∀ word, list.contains word ↔ (list.position? word).isSome) ∧
      ∀ other : WordList, list == other ↔
        ∀ value < wordListLength, list.word? value = other.word? value := by
  refine ⟨fun entries => ?made, fun value => list.isSome_word?_iff,
    fun word value => list.position?_eq_some_iff, fun word => list.contains_iff,
    fun other => (list.beq_iff other).trans (list.entries_eq_iff other)⟩
  case made =>
    rw [ofEntries_eq_ok_iff]
    constructor
    · rintro ⟨-, rfl⟩
      rfl
    · rintro rfl
      exact ⟨list.wellFormed, rfl⟩

end MnemonicCode.WordList
