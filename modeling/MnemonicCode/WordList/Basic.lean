import MnemonicCode.Failure
import MnemonicCode.Text.Blank
import Std.Data.HashMap

/-!
# Word lists

A word list names the 2048 values of eleven bits. Its entries are not empty,
hold no invisible character and are pairwise distinct (`WordList.WellFormed`),
so that a word names one value. A table from words to their positions is kept
beside the entries for looking words up.

`WordList.ofEntries` builds a list or reports the first defect of the entries: a
wrong count before all others, then the least index whose entry is empty, holds
an invisible character or repeats an earlier entry.
-/

set_option autoImplicit false

namespace MnemonicCode

/-- The number of entries in a word list. -/
def wordListLength : Nat := 2048

namespace WordList

/-- What the entries of a word list satisfy. -/
structure WellFormed (entries : List String) : Prop where
  length_eq : entries.length = wordListLength
  nonempty : ∀ entry ∈ entries, entry ≠ ""
  visible : ∀ entry ∈ entries, ∀ c ∈ entry.toList, Text.isInvisible c = false
  nodup : entries.Nodup

/-- The table from words to positions. -/
abbrev Table := Std.HashMap String Nat

/-- The table after the entries have been added, the first of them at `index`. -/
def tableFrom (index : Nat) (table : Table) : List String → Table
  | [] => table
  | entry :: rest => tableFrom (index + 1) (table.insert entry index) rest

/-- Adds the entries to the table, the first of them at `index`, or reports the
first defect. -/
def scan (index : Nat) (table : Table) : List String → Except WordListFault Table
  | [] => .ok table
  | entry :: rest =>
    if entry.isEmpty then .error (.emptyEntry index)
    else if entry.toList.any Text.isInvisible then .error (.invisibleCharacter index)
    else match table[entry]? with
      | some first => .error (.repeatedEntry index first)
      | none => scan (index + 1) (table.insert entry index) rest

/-- What a scan without defects tells about the entries and its result. -/
theorem scan_ok {entries : List String} {index : Nat} {table result : Table}
    (passed : scan index table entries = .ok result) :
    result = tableFrom index table entries ∧
      (∀ entry ∈ entries, entry ≠ "" ∧
        (∀ c ∈ entry.toList, Text.isInvisible c = false) ∧ table[entry]? = none) ∧
      entries.Nodup := by
  induction entries generalizing index table with
  | nil =>
    simp only [scan, Except.ok.injEq] at passed
    exact ⟨passed.symm, by simp, List.nodup_nil⟩
  | cons entry rest ih =>
    simp only [scan] at passed
    split at passed
    · cases passed
    · next nonempty =>
      split at passed
      · cases passed
      · next visible =>
        split at passed
        · cases passed
        · next fresh =>
          obtain ⟨same, clean, nodup⟩ := ih passed
          have first : entry ≠ "" ∧ (∀ c ∈ entry.toList, Text.isInvisible c = false) := by
            constructor
            · intro empty
              subst empty
              exact nonempty rfl
            · intro c member
              cases seen : Text.isInvisible c with
              | false => rfl
              | true => exact absurd (List.any_eq_true.mpr ⟨c, member, seen⟩) visible
          refine ⟨same, ?_, ?_⟩
          · intro other member
            rcases List.mem_cons.mp member with here | later
            · subst here
              exact ⟨first.1, first.2, fresh⟩
            · obtain ⟨notEmpty, allVisible, absent⟩ := clean other later
              rw [Std.HashMap.getElem?_insert] at absent
              split at absent
              · cases absent
              · exact ⟨notEmpty, allVisible, absent⟩
          · refine List.nodup_cons.mpr ⟨?_, nodup⟩
            intro member
            obtain ⟨_, _, absent⟩ := clean entry member
            simp at absent

end WordList

/-- An ordered list of 2048 words, with the positions of the words in a table. -/
structure WordList where
  entries : List String
  positions : WordList.Table
  wellFormed : WordList.WellFormed entries
  positions_eq : positions = WordList.tableFrom 0 ∅ entries

namespace WordList

/-- The word list with these entries. -/
def ofWellFormed (entries : List String) (wellFormed : WellFormed entries) : WordList :=
  ⟨entries, tableFrom 0 ∅ entries, wellFormed, rfl⟩

/-- The word list with these entries, or their first defect. -/
def ofEntries (entries : List String) : Except WordListFault WordList :=
  if length_eq : entries.length = wordListLength then
    match passed : scan 0 ∅ entries with
    | .error fault => .error fault
    | .ok positions =>
      .ok {
        entries
        positions
        wellFormed := {
          length_eq
          nonempty := fun entry member => ((scan_ok passed).2.1 entry member).1
          visible := fun entry member => ((scan_ok passed).2.1 entry member).2.1
          nodup := (scan_ok passed).2.2 }
        positions_eq := (scan_ok passed).1 }
  else
    .error (.wrongCount entries.length)

/-- The number of words. -/
def length (list : WordList) : Nat := list.entries.length

/-- Whether there are no words. -/
def isEmpty (list : WordList) : Bool := list.entries.isEmpty

/-- The word that names `value`, if the value has eleven bits. -/
def word? (list : WordList) (value : Nat) : Option String := list.entries[value]?

/-- The value that `word` names, if it is in the list. -/
def position? (list : WordList) (word : String) : Option Nat := list.positions[word]?

/-- Whether `word` is in the list. -/
def contains (list : WordList) (word : String) : Bool := list.positions.contains word

/-- Two lists are the same when both their entries and their tables agree. -/
instance : BEq WordList where
  beq left right := left.entries == right.entries && left.positions == right.positions

/-- The text that shows a list: its length and its two ends. -/
def summary (list : WordList) : String :=
  let first := list.entries.head?.getD ""
  let last := list.entries.getLast?.getD ""
  s!"Wordlist({list.length} words, {first}..{last})"

@[simp] theorem length_eq (list : WordList) : list.length = wordListLength :=
  list.wellFormed.length_eq

theorem lt_length_of_lt (list : WordList) {value : Nat} (small : value < wordListLength) :
    value < list.entries.length := by
  rw [list.wellFormed.length_eq]
  exact small

/-- The word that names a value of eleven bits. -/
def word (list : WordList) (value : Fin wordListLength) : String :=
  list.entries.get ⟨value.val, list.lt_length_of_lt value.isLt⟩

end WordList

end MnemonicCode
