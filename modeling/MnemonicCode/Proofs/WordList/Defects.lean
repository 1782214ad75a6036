import MnemonicCode.Proofs.WordList.Format
import MnemonicCode.Proofs.WordList.Tables
import Mathlib

/-!
# The first defect of the entries

An entry is defective when it is empty, when it holds a character that cannot be seen, or
when it stands at an earlier index as well (`WordList.DefectAt`). The scan passes over the
entries before the first defective one and stops there with its defect, whatever comes
after it (`WordList.scan_of_isLeast`). A repeated entry is reported with the one earlier
index at which it stands: no entry before it is repeated, so that the table still finds each
of them at its own place.

Entries are therefore refused for their number, before anything else is looked at, or for
the defect at the least defective index (`WordList.ofEntries_firstDefect`).
-/

set_option autoImplicit false

namespace MnemonicCode.WordList

variable {entries before rest : List String} {entry : String} {index : Nat}
  {fault : WordListFault}

/-! ## Defects -/

/-- A defect of the entry at an index, and the fault that names it. -/
inductive DefectAt (entries : List String) (index : Nat) : WordListFault → Prop where
  | empty (here : entries[index]? = some "") : DefectAt entries index (.emptyEntry index)
  | invisible {entry : String} {c : Char} (here : entries[index]? = some entry)
      (inside : c ∈ entry.toList)
      (hidden : Text.isBlank c = true ∨ Text.isControl c = true ∨ c = '\ufeff' ∨ c = '\u200b') :
      DefectAt entries index (.invisibleCharacter index)
  | repeated {entry : String} {first : Nat} (here : entries[index]? = some entry)
      (earlier : first < index) (there : entries[first]? = some entry) :
      DefectAt entries index (.repeatedEntry index first)

/-- The indices of the defective entries. -/
def defectiveIndices (entries : List String) : Set Nat :=
  {index | ∃ fault, DefectAt entries index fault}

theorem isInvisible_iff {c : Char} :
    Text.isInvisible c = true ↔
      Text.isBlank c = true ∨ Text.isControl c = true ∨ c = '\ufeff' ∨ c = '\u200b' := by
  rw [← Bool.not_eq_false, isInvisible_eq_false_iff]
  simp only [← Bool.not_eq_false]
  tauto

/-- An entry that is not visible is defective wherever it stands. -/
theorem mem_defectiveIndices_of_not_isVisible (here : entries[index]? = some entry)
    (unseen : ¬ IsVisible entry) : index ∈ defectiveIndices entries := by
  by_cases empty : entry = ""
  · subst empty
    exact ⟨_, .empty here⟩
  · have hidden : ∃ c ∈ entry.toList, Text.isInvisible c = true := by
      by_contra none
      refine unseen ⟨empty, fun c inside => ?_⟩
      exact Bool.eq_false_iff.mpr fun invisible => none ⟨c, inside, invisible⟩
    obtain ⟨c, inside, invisible⟩ := hidden
    exact ⟨_, .invisible here inside (isInvisible_iff.mp invisible)⟩

/-- A defect stays when entries are added behind. -/
theorem DefectAt.append (defect : DefectAt before index fault) (rest : List String) :
    DefectAt (before ++ rest) index fault := by
  have kept {place : Nat} {entry : String} (here : before[place]? = some entry) :
      (before ++ rest)[place]? = some entry := by
    obtain ⟨inside, -⟩ := List.getElem?_eq_some_iff.mp here
    rw [List.getElem?_append_left inside, here]
  cases defect with
  | empty here => exact .empty (kept here)
  | invisible here inside hidden => exact .invisible (kept here) inside hidden
  | repeated here earlier there => exact .repeated (kept here) earlier (kept there)

theorem DefectAt.lt_length (defect : DefectAt entries index fault) : index < entries.length := by
  cases defect with
  | empty here | invisible here | repeated here => exact (List.getElem?_eq_some_iff.mp here).1

/-- **Without defects the entries are visible and distinct**, and the other way round. -/
theorem defectiveIndices_eq_empty_iff :
    defectiveIndices entries = ∅ ↔ (∀ entry ∈ entries, IsVisible entry) ∧ entries.Nodup := by
  rw [Set.eq_empty_iff_forall_notMem]
  constructor
  · intro sound
    constructor
    · intro entry member
      obtain ⟨index, here⟩ := List.getElem?_of_mem member
      by_contra unseen
      exact sound index (mem_defectiveIndices_of_not_isVisible here unseen)
    · refine List.nodup_iff_getElem?_ne_getElem?.mpr fun first index earlier inside same => ?_
      have here := List.getElem?_eq_getElem inside
      exact sound index ⟨_, .repeated here earlier (same.trans here)⟩
  · rintro ⟨visible, nodup⟩ index ⟨fault, defect⟩
    cases defect with
    | empty here => exact (visible "" (List.mem_of_getElem? here)).1 rfl
    | invisible here inside hidden =>
      exact (visible _ (List.mem_of_getElem? here)).ne inside (isInvisible_iff.mpr hidden) rfl
    | repeated here earlier there =>
      obtain ⟨inside, -⟩ := List.getElem?_eq_some_iff.mp here
      exact List.nodup_iff_getElem?_ne_getElem?.mp nodup _ _ earlier inside (there.trans here.symm)

/-! ## The scan up to the first defect -/

/-- The scan goes on behind entries that it passes. -/
theorem scan_append {table result : Table} (passed : scan index table before = .ok result)
    (rest : List String) :
    scan index table (before ++ rest) = scan (index + before.length) result rest := by
  induction before generalizing index table with
  | nil =>
    cases passed
    rfl
  | cons entry more ih =>
    obtain ⟨-, clean, -⟩ := scan_eq_ok_iff.mp passed
    obtain ⟨visible, fresh⟩ := clean entry List.mem_cons_self
    rw [scan_cons_of_isVisible visible fresh] at passed
    rw [List.cons_append, scan_cons_of_isVisible visible fresh, ih passed, List.length_cons,
      Nat.add_assoc, Nat.add_comm 1]

/-- The scan stops at an entry with its defect, when the table finds the entries before it
and they are visible. -/
theorem scan_cons_of_defectAt {table : Table} (indexes : Indexes table before)
    (visible : ∀ entry ∈ before, IsVisible entry)
    (defect : DefectAt (before ++ entry :: rest) before.length fault) :
    scan before.length table (entry :: rest) = .error fault := by
  have stands : (before ++ entry :: rest)[before.length]? = some entry := by simp
  cases defect with
  | empty here =>
    cases stands.symm.trans here
    rfl
  | invisible here inside hidden =>
    cases stands.symm.trans here
    have filled : ¬ entry.isEmpty = true := by
      rw [String.isEmpty_iff]
      rintro rfl
      cases inside
    have invisible : entry.toList.any Text.isInvisible = true :=
      List.any_eq_true.mpr ⟨_, inside, isInvisible_iff.mpr hidden⟩
    rw [scan, if_neg filled, if_pos invisible]
  | repeated here earlier there =>
    cases stands.symm.trans here
    rw [List.getElem?_append_left earlier] at there
    -- the entry is visible, because it stands among those before
    have seen := visible entry (List.mem_of_getElem? there)
    rw [seen.scan_cons, (indexes _ _).mpr there]

/-- The entries before the first defective one have no defects. -/
theorem defectiveIndices_take_of_isLeast (least : IsLeast (defectiveIndices entries) index) :
    defectiveIndices (entries.take index) = ∅ := by
  refine Set.eq_empty_iff_forall_notMem.mpr ?_
  rintro other ⟨fault, defect⟩
  have early : other < index := defect.lt_length.trans_le (List.length_take_le index entries)
  have again := defect.append (entries.drop index)
  rw [List.take_append_drop] at again
  exact absurd early (Nat.not_lt.mpr (least.2 ⟨fault, again⟩))

/-- **The scan reports a defect at the least defective index**, whatever comes after it. -/
theorem scan_of_isLeast (least : IsLeast (defectiveIndices entries) index)
    (defect : DefectAt entries index fault) : scan 0 ∅ entries = .error fault := by
  have inside := defect.lt_length
  have count : (entries.take index).length = index := List.length_take_of_le inside.le
  have parts : entries = entries.take index ++ entries[index] :: entries.drop (index + 1) := by
    rw [← List.drop_eq_getElem_cons inside, List.take_append_drop]
  obtain ⟨visible, nodup⟩ :=
    defectiveIndices_eq_empty_iff.mp (defectiveIndices_take_of_isLeast least)
  have passed : scan 0 ∅ (entries.take index) = .ok (tableFrom 0 ∅ (entries.take index)) :=
    scan_of_nodup visible (fun _ _ => Std.HashMap.getElem?_empty) nodup
  have indexes : Indexes (tableFrom 0 ∅ (entries.take index)) (entries.take index) :=
    Indexes.empty.scan passed
  rw [parts, scan_append passed, Nat.zero_add]
  apply scan_cons_of_defectAt indexes visible
  rw [← parts, count]
  exact defect

/-- A scan that fails has found the first defect. -/
theorem scan_eq_error_iff :
    scan 0 ∅ entries = .error fault ↔
      ∃ index, IsLeast (defectiveIndices entries) index ∧ DefectAt entries index fault := by
  constructor
  · intro failed
    have defective : (defectiveIndices entries).Nonempty := by
      refine Set.nonempty_iff_ne_empty.mpr fun sound => ?_
      obtain ⟨visible, nodup⟩ := defectiveIndices_eq_empty_iff.mp sound
      rw [scan_of_nodup visible (fun _ _ => Std.HashMap.getElem?_empty) nodup] at failed
      cases failed
    have least := isLeast_csInf defective
    obtain ⟨other, defect⟩ := least.1
    cases failed.symm.trans (scan_of_isLeast least defect)
    exact ⟨_, least, defect⟩
  · rintro ⟨index, least, defect⟩
    exact scan_of_isLeast least defect

/-! ## Entries that are refused -/

/-- The number of the entries is judged before anything else. -/
theorem ofEntries_of_wrongCount (count : entries.length ≠ wordListLength) :
    ofEntries entries = .error (.wrongCount entries.length) := by
  rw [ofEntries, dif_neg count]

/-- Entries of the right number are refused for their first defect. -/
theorem ofEntries_eq_error_iff (count : entries.length = wordListLength) :
    ofEntries entries = .error fault ↔
      ∃ index, IsLeast (defectiveIndices entries) index ∧ DefectAt entries index fault := by
  rw [← scan_eq_error_iff, ofEntries, dif_pos count]
  split
  · next found failed => rw [failed, Except.error.injEq, Except.error.injEq]
  · next table passed =>
    constructor
    · exact nofun
    · intro failed
      cases passed.symm.trans failed

/-- At the first defective index there is one defect only, so that a repeated entry stands
at one earlier index. -/
theorem DefectAt.first_unique {first other : Nat}
    (defect : DefectAt entries index (.repeatedEntry index first))
    (least : IsLeast (defectiveIndices entries) index) :
    other < index ∧ entries[other]? = entries[index]? ↔ other = first := by
  cases defect with
  | repeated here earlier there =>
    constructor
    · rintro ⟨before, same⟩
      have again := scan_of_isLeast least (.repeated here before (same.trans here))
      have once := scan_of_isLeast least (.repeated here earlier there)
      cases again.symm.trans once
      rfl
    · rintro rfl
      exact ⟨earlier, there.trans here.symm⟩

/-- **Entries make a word list exactly when they have no defect, and are otherwise refused
for the first one.** The number of the entries comes before every defect. If it is right, the
entries are accepted when they are distinct and each of them is visible; otherwise the fault
is the defect at the least index that has one. A repeated entry is told by its index and by
the only earlier index at which it stands. -/
theorem ofEntries_firstDefect (entries : List String) :
    (entries.length ≠ 2048 → ofEntries entries = .error (.wrongCount entries.length) ∧
      (WordListFault.wrongCount entries.length).message =
        s!"expected 2048 words, got {entries.length}") ∧
    ((∃ list, ofEntries entries = .ok list ∧ list.entries = entries) ↔
      entries.length = 2048 ∧ entries.Nodup ∧ ∀ entry ∈ entries, entry ≠ "" ∧
        ∀ c ∈ entry.toList, Text.isBlank c = false ∧ Text.isControl c = false ∧
          c ≠ '\ufeff' ∧ c ≠ '\u200b') ∧
    (entries.length = 2048 → ∀ fault, ofEntries entries = .error fault ↔
      ∃ index, IsLeast (defectiveIndices entries) index ∧ DefectAt entries index fault) ∧
    (∀ index first, ofEntries entries = .error (.repeatedEntry index first) →
      (WordListFault.repeatedEntry index first).message =
          s!"entry {index} duplicates entry {first}" ∧
        ∀ other, other < index ∧ entries[other]? = entries[index]? ↔ other = first) := by
  refine ⟨fun count => ⟨ofEntries_of_wrongCount count, rfl⟩, ?accepted,
    fun count fault => ofEntries_eq_error_iff count, ?repeated⟩
  case accepted =>
    simp only [← isInvisible_eq_false_iff]
    constructor
    · rintro ⟨list, built, -⟩
      obtain ⟨wellFormed, -⟩ := ofEntries_eq_ok_iff.mp built
      exact ⟨wellFormed.length_eq, wellFormed.nodup, fun _ member => wellFormed.isVisible member⟩
    · rintro ⟨count, nodup, visible⟩
      have wellFormed : WellFormed entries :=
        ⟨count, fun _ member => (visible _ member).1, fun _ member => (visible _ member).2, nodup⟩
      exact ⟨ofWellFormed entries wellFormed, ofEntries_eq_ok_iff.mpr ⟨wellFormed, rfl⟩, rfl⟩
  case repeated =>
    intro index first refused
    refine ⟨rfl, fun other => ?_⟩
    by_cases count : entries.length = wordListLength
    · obtain ⟨place, least, defect⟩ := (ofEntries_eq_error_iff count).mp refused
      have here : place = index := by
        cases defect
        rfl
      subst here
      exact defect.first_unique least
    · rw [ofEntries_of_wrongCount count] at refused
      cases refused

end MnemonicCode.WordList
