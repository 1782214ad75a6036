import MnemonicCode.Proofs.WordList.Defects
import Mathlib

/-!
# The fault that is found in a text

A text that is no word list is refused for one fault, and which one is settled by an order
(`WordList.Complaint`): a byte order mark at its beginning, then the first of its lines that
is padded, then the number of its lines, and then the first defect of the lines as entries.
A text is refused with a fault exactly when this order leads to it
(`WordList.ofText_eq_error_iff_complaint`).

Lines are told by their numbers, from one on, and entries by their indices, from zero on. By
the time when entries are looked at, no line is padded, so that the blank characters that an
entry may still hold have other characters on both sides.
-/

set_option autoImplicit false

namespace MnemonicCode

namespace Text

/-- A blank character in a text that is not padded has characters on both sides. -/
theorem ne_nil_of_isPadded_eq_false {text : String} (flush : isPadded text = false)
    {left right : List Char} {c : Char} (parts : text.toList = left ++ c :: right)
    (blank : isBlank c = true) : left ≠ [] ∧ right ≠ [] := by
  rw [isPadded, Bool.or_eq_false_iff, parts] at flush
  obtain ⟨first, last⟩ := flush
  constructor
  · rintro rfl
    rw [List.nil_append, List.head?_cons, Option.any_some, blank] at first
    cases first
  · rintro rfl
    rw [List.getLast?_append_cons, List.getLast?_singleton, Option.any_some, blank] at last
    cases last

end Text

namespace WordList

open Text (withoutFinalLineFeed lines isPadded)

variable {text : String} {index : Nat} {fault : WordListFault}

/-! ## Lines -/

/-- The lines on which the entries stand. -/
def entryLines (text : String) : List String := lines (withoutFinalLineFeed text)

/-- The numbers of the padded lines, from one on. -/
def paddedNumbers (text : String) : Set Nat :=
  {number | ∃ index line, number = index + 1 ∧
    (entryLines text)[index]? = some line ∧ isPadded line = true}

theorem paddedNumbers_eq_empty_iff :
    paddedNumbers text = ∅ ↔ ∀ line ∈ entryLines text, isPadded line = false := by
  rw [Set.eq_empty_iff_forall_notMem]
  constructor
  · intro none line member
    obtain ⟨index, here⟩ := List.getElem?_of_mem member
    exact Bool.eq_false_iff.mpr fun padded => none (index + 1) ⟨index, line, rfl, here, padded⟩
  · rintro flush number ⟨index, line, rfl, here, padded⟩
    rw [flush line (List.mem_of_getElem? here)] at padded
    cases padded

/-- The search for a padded line finds the first one. -/
theorem findIdx?_isPadded_of_isLeast (least : IsLeast (paddedNumbers text) (index + 1)) :
    (entryLines text).findIdx? isPadded = some index := by
  obtain ⟨⟨place, line, same, here, padded⟩, bound⟩ := least
  cases same
  obtain ⟨inside, rfl⟩ := List.getElem?_eq_some_iff.mp here
  refine List.findIdx?_eq_some_iff_getElem.mpr ⟨inside, padded, fun other earlier also => ?_⟩
  have there := List.getElem?_eq_getElem (earlier.trans inside)
  have later := bound ⟨other, _, rfl, there, also⟩
  omega

/-! ## Reading line by line -/

theorem ofText_of_marked (marked : text.toList.head? = some '\ufeff') :
    ofText text = .error .byteOrderMark := by
  have begins : (text.toList.head? == some Text.byteOrderMark) = true := beq_iff_eq.mpr marked
  rw [ofText, if_pos begins]

section Unmarked

variable (unmarked : text.toList.head? ≠ some '\ufeff')

include unmarked

theorem ofText_of_unmarked :
    ofText text =
      match (entryLines text).findIdx? isPadded with
      | some index => .error (.paddedLine index)
      | none => ofEntries (entryLines text) := by
  have begins : ¬ (text.toList.head? == some Text.byteOrderMark) = true := fun same =>
    unmarked (beq_iff_eq.mp same)
  rw [ofText, if_neg begins]
  rfl

theorem ofText_of_padded (least : IsLeast (paddedNumbers text) (index + 1)) :
    ofText text = .error (.paddedLine index) := by
  rw [ofText_of_unmarked unmarked, findIdx?_isPadded_of_isLeast least]

/-- When no line is padded, the lines are read as entries. -/
theorem ofText_of_flush (flush : paddedNumbers text = ∅) :
    ofText text = ofEntries (entryLines text) := by
  have none : (entryLines text).findIdx? isPadded = none :=
    List.findIdx?_eq_none_iff.mpr (paddedNumbers_eq_empty_iff.mp flush)
  rw [ofText_of_unmarked unmarked, none]

end Unmarked

/-! ## Texts that are refused -/

/-- The fault for which a text is refused, with the conditions that lead to it. -/
inductive Complaint (text : String) : WordListFault → Prop where
  | byteOrderMark (marked : text.toList.head? = some '\ufeff') : Complaint text .byteOrderMark
  | paddedLine {index : Nat} (unmarked : text.toList.head? ≠ some '\ufeff')
      (least : IsLeast (paddedNumbers text) (index + 1)) : Complaint text (.paddedLine index)
  | wrongCount (unmarked : text.toList.head? ≠ some '\ufeff') (flush : paddedNumbers text = ∅)
      (count : (entryLines text).length ≠ 2048) :
      Complaint text (.wrongCount (entryLines text).length)
  | entry {index : Nat} {fault : WordListFault} (unmarked : text.toList.head? ≠ some '\ufeff')
      (flush : paddedNumbers text = ∅) (count : (entryLines text).length = 2048)
      (least : IsLeast (defectiveIndices (entryLines text)) index)
      (defect : DefectAt (entryLines text) index fault) : Complaint text fault

/-- A text is refused for every complaint about it. -/
theorem Complaint.ofText_eq (complaint : Complaint text fault) : ofText text = .error fault := by
  cases complaint with
  | byteOrderMark marked => exact ofText_of_marked marked
  | paddedLine unmarked least => exact ofText_of_padded unmarked least
  | wrongCount unmarked flush count =>
    rw [ofText_of_flush unmarked flush]
    exact ofEntries_of_wrongCount count
  | entry unmarked flush count least defect =>
    rw [ofText_of_flush unmarked flush]
    exact (ofEntries_eq_error_iff count).mpr ⟨_, least, defect⟩

/-- There is a complaint about every text that is refused. -/
theorem complaint_of_ofText (refused : ofText text = .error fault) : Complaint text fault := by
  by_cases marked : text.toList.head? = some '\ufeff'
  · cases refused.symm.trans (ofText_of_marked marked)
    exact .byteOrderMark marked
  rcases (paddedNumbers text).eq_empty_or_nonempty with flush | padded
  · rw [ofText_of_flush marked flush] at refused
    by_cases count : (entryLines text).length = wordListLength
    · obtain ⟨index, least, defect⟩ := (ofEntries_eq_error_iff count).mp refused
      exact .entry marked flush count least defect
    · cases refused.symm.trans (ofEntries_of_wrongCount count)
      exact .wrongCount marked flush count
  · have least := isLeast_csInf padded
    obtain ⟨index, line, same, -⟩ := least.1
    rw [same] at least
    cases refused.symm.trans (ofText_of_padded marked least)
    exact .paddedLine marked least

/-- **A text is refused with a fault exactly when the order of the checks leads to it.** A
padded line is told by its number. When there is no byte order mark and no padded line, the
text is judged as its lines are judged as entries, and a blank character that makes one of
them defective stands between others. -/
theorem ofText_eq_error_iff_complaint (text : String) :
    (∀ fault, ofText text = .error fault ↔ Complaint text fault) ∧
    (text.toList.head? ≠ some '\ufeff' →
      (∀ number, IsLeast (paddedNumbers text) number →
        ∃ fault, ofText text = .error fault ∧
          fault.message = s!"line {number} has surrounding whitespace") ∧
      (paddedNumbers text = ∅ →
        ofText text = ofEntries (entryLines text) ∧
          ∀ line ∈ entryLines text, ∀ left c right, line.toList = left ++ c :: right →
            Text.isBlank c = true → left ≠ [] ∧ right ≠ [])) := by
  refine ⟨fun fault => ⟨complaint_of_ofText, Complaint.ofText_eq⟩, fun unmarked => ⟨?_, ?_⟩⟩
  · intro number least
    obtain ⟨index, line, rfl, -⟩ := least.1
    exact ⟨_, ofText_of_padded unmarked least, rfl⟩
  · intro flush
    refine ⟨ofText_of_flush unmarked flush, fun line member left c right parts blank => ?_⟩
    have solid := paddedNumbers_eq_empty_iff.mp flush line member
    exact Text.ne_nil_of_isPadded_eq_false solid parts blank

/-- A carriage return is blank, so that it is reported although there are too few lines. -/
example : ofText "a\r\nb\n" = .error (.paddedLine 0) := by rfl

end WordList

end MnemonicCode
