import MnemonicCode.WordList.Basic
import Mathlib

/-!
# The schema of word lists

Entries make a word list exactly when they satisfy the schema, and the list then has
these entries (`ofEntries_eq_ok_iff`). The entries are scanned once, with a table of
those seen before: the scan passes when every entry is visible and new to the table
and no two of them are the same (`scan_eq_ok_iff`). The entries determine the table, so
lists with the same entries are the same (`entries_inj`).
-/

set_option autoImplicit false

namespace MnemonicCode.WordList

variable {entries : List String} {list : WordList}

/-- A visible entry has a character, and each of its characters can be seen. -/
def IsVisible (entry : String) : Prop :=
  entry ≠ "" ∧ ∀ c ∈ entry.toList, Text.isInvisible c = false

theorem WellFormed.isVisible (wellFormed : WellFormed entries) {entry : String}
    (member : entry ∈ entries) : IsVisible entry :=
  ⟨wellFormed.nonempty entry member, wellFormed.visible entry member⟩

/-- A visible entry is looked up in the table. -/
theorem IsVisible.scan_cons {entry : String} (visible : IsVisible entry) (index : Nat)
    (table : Table) (rest : List String) :
    scan index table (entry :: rest) =
      match table[entry]? with
      | some first => .error (.repeatedEntry index first)
      | none => scan (index + 1) (table.insert entry index) rest := by
  obtain ⟨nonempty, clean⟩ := visible
  have filled : ¬ entry.isEmpty = true := by
    rw [String.isEmpty_iff]
    exact nonempty
  have seen : ¬ entry.toList.any Text.isInvisible = true := by
    rw [List.any_eq_true]
    rintro ⟨c, inside, invisible⟩
    rw [clean c inside] at invisible
    cases invisible
  rw [scan]
  exact (if_neg filled).trans (if_neg seen)

/-- A visible entry that is not in the table is added to it. -/
theorem scan_cons_of_isVisible {index : Nat} {table : Table} {entry : String}
    (visible : IsVisible entry) (fresh : table[entry]? = none) (rest : List String) :
    scan index table (entry :: rest) = scan (index + 1) (table.insert entry index) rest := by
  rw [visible.scan_cons, fresh]

theorem scan_of_nodup {index : Nat} {table : Table}
    (visible : ∀ entry ∈ entries, IsVisible entry)
    (fresh : ∀ entry ∈ entries, table[entry]? = none) (nodup : entries.Nodup) :
    scan index table entries = .ok (tableFrom index table entries) := by
  induction entries generalizing index table with
  | nil => rfl
  | cons entry rest ih =>
    obtain ⟨absent, nodup⟩ := List.nodup_cons.mp nodup
    rw [scan_cons_of_isVisible (visible entry List.mem_cons_self)
      (fresh entry List.mem_cons_self), tableFrom]
    refine ih (fun other later => visible other (List.mem_cons_of_mem _ later)) ?_ nodup
    -- An entry that comes later is another one, so that it is still new to the table.
    intro other later
    have differ : entry ≠ other := by
      rintro rfl
      exact absent later
    rw [Std.HashMap.getElem?_insert, if_neg (by simpa using differ)]
    exact fresh other (List.mem_cons_of_mem _ later)

/-- **The scan passes entries that are visible, new to the table and distinct**, and
no others. -/
theorem scan_eq_ok_iff {index : Nat} {table result : Table} :
    scan index table entries = .ok result ↔
      result = tableFrom index table entries ∧
        (∀ entry ∈ entries, IsVisible entry ∧ table[entry]? = none) ∧ entries.Nodup := by
  constructor
  · intro passed
    obtain ⟨same, clean, nodup⟩ := scan_ok passed
    refine ⟨same, fun entry member => ?_, nodup⟩
    obtain ⟨nonempty, visible, fresh⟩ := clean entry member
    exact ⟨⟨nonempty, visible⟩, fresh⟩
  · rintro ⟨rfl, clean, nodup⟩
    exact scan_of_nodup (fun entry member => (clean entry member).1)
      (fun entry member => (clean entry member).2) nodup

/-- Lists with the same entries are the same. -/
theorem entries_inj {left right : WordList} (same : left.entries = right.entries) :
    left = right := by
  have tables : left.positions = right.positions := by
    rw [left.positions_eq, right.positions_eq, same]
  cases left
  cases right
  cases same
  cases tables
  rfl

/-- The table of a word list is the one that the scan of its entries leaves behind. -/
theorem scan_entries (list : WordList) : scan 0 ∅ list.entries = .ok list.positions :=
  scan_eq_ok_iff.mpr ⟨list.positions_eq,
    fun _ member => ⟨list.wellFormed.isVisible member, Std.HashMap.getElem?_empty⟩,
    list.wellFormed.nodup⟩

/-- **Entries make a word list exactly when they satisfy the schema**, and the list
has these entries. -/
theorem ofEntries_eq_ok_iff :
    ofEntries entries = .ok list ↔ WellFormed entries ∧ list.entries = entries := by
  constructor
  · intro built
    unfold ofEntries at built
    split at built
    · split at built
      · cases built
      · have same : list.entries = entries := by
          cases built
          rfl
        exact ⟨same ▸ list.wellFormed, same⟩
    · cases built
  · rintro ⟨wellFormed, rfl⟩
    unfold ofEntries
    rw [dif_pos wellFormed.length_eq]
    split
    · next fault failed =>
      rw [list.scan_entries] at failed
      cases failed
    · exact congrArg Except.ok (entries_inj rfl)

end MnemonicCode.WordList
