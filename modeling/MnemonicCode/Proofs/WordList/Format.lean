import MnemonicCode.Proofs.Text.Words
import MnemonicCode.Proofs.WordList.Schema
import MnemonicCode.WordList.Canonical
import Mathlib

/-!
# The format of word list texts

A text is a listing of entries when it has one of them on each line, with or without
a line feed after the last, and the entries satisfy the schema (`IsListing`). These
are the texts that are read as word lists, and the list that is read has the entries
of the listing (`isListing_iff`). The canonical text of a list is one of them, so
reading it gives the list back.

No valid text is lost to the checks that come before the schema. A byte order mark
and the blank characters at the end of a line are invisible, so that an entry cannot
hold them; and as the last entry is not empty, the only line feed that can stand at
the end is the optional one.
-/

set_option autoImplicit false

namespace MnemonicCode.Text

/-! ## Lines -/

variable {text : String} {parts : List String}

/-- The lines of a text, joined by line feeds, are the text. -/
theorem intercalate_lines (text : String) : "\n".intercalate (lines text) = text := by
  apply String.toList_inj.mp
  have whole := intercalate_pieces '\n' text.toList
  rw [String.toList_intercalate, lines, List.map_map]
  simpa [Function.comp_def] using whole

/-- Parts without line feeds, joined by line feeds, are the lines. -/
theorem lines_intercalate (clean : ∀ part ∈ parts, ∀ c ∈ part.toList, c ≠ '\n')
    (nonempty : parts ≠ []) : lines ("\n".intercalate parts) = parts := by
  have cut : pieces (· == '\n') ("\n".intercalate parts).toList = parts.map String.toList := by
    rw [String.toList_intercalate]
    refine @pieces_intercalate (· == '\n') '\n' (beq_self_eq_true '\n') _ ?_
      fun empty => nonempty (List.map_eq_nil_iff.mp empty)
    intro piece member c inside
    obtain ⟨part, among, rfl⟩ := List.mem_map.mp member
    exact beq_eq_false_iff_ne.mpr (clean part among c inside)
  rw [lines, cut, List.map_map]
  simp [Function.comp_def]

/-- A joined text ends as its last part does. -/
theorem exists_getLast_intercalate (nonempty : parts ≠ []) :
    ∃ front, ∃ last ∈ parts, ("\n".intercalate parts).toList = front ++ last.toList := by
  induction parts with
  | nil => exact absurd rfl nonempty
  | cons part rest ih =>
    cases rest with
    | nil => exact ⟨[], part, List.mem_cons_self, by rw [String.intercalate_singleton]; rfl⟩
    | cons next others =>
      obtain ⟨front, last, among, ends⟩ := ih (List.cons_ne_nil _ _)
      refine ⟨(part ++ "\n").toList ++ front, last, List.mem_cons_of_mem _ among, ?_⟩
      rw [String.intercalate_cons_cons, String.toList_append, ends, List.append_assoc]

/-! ## The last line feed -/

/-- Nothing but a last line feed is taken away. -/
theorem withoutFinalLineFeed_cases (text : String) :
    text = withoutFinalLineFeed text ∨ text = withoutFinalLineFeed text ++ "\n" := by
  unfold withoutFinalLineFeed
  split
  · next reversed ends =>
    right
    apply String.toList_inj.mp
    rw [String.toList_append, String.toList_ofList, ← List.reverse_inj, ends]
    simp
  · left
    rfl

@[simp] theorem withoutFinalLineFeed_append (text : String) :
    withoutFinalLineFeed (text ++ "\n") = text := by
  have ends : (text ++ "\n").toList.reverse = '\n' :: text.toList.reverse := by
    simp
  unfold withoutFinalLineFeed
  rw [ends]
  simp

theorem withoutFinalLineFeed_of_getLast (other : text.toList.getLast? ≠ some '\n') :
    withoutFinalLineFeed text = text := by
  unfold withoutFinalLineFeed
  split
  · next reversed ends =>
    rw [← List.head?_reverse, ends] at other
    exact absurd rfl other
  · rfl

/-- Without blank characters a text is not padded. -/
theorem isPadded_eq_false (solid : ∀ c ∈ text.toList, isBlank c = false) :
    isPadded text = false := by
  have first : text.toList.head?.any isBlank = false := by
    rw [Option.any_eq_false]
    intro c here
    rw [solid c (List.mem_of_head? here)]
  have last : text.toList.getLast?.any isBlank = false := by
    rw [Option.any_eq_false]
    intro c here
    rw [solid c (List.mem_of_getLast? here)]
  rw [isPadded, first, last, Bool.or_false]

end MnemonicCode.Text

namespace MnemonicCode.WordList

open Text (withoutFinalLineFeed lines)

variable {entries : List String} {list : WordList} {text : String}

/-! ## Entries on lines -/

/-- The characters of an entry are neither line feeds nor byte order marks. -/
theorem IsVisible.ne {entry : String} (visible : IsVisible entry) {c d : Char}
    (member : c ∈ entry.toList) (invisible : Text.isInvisible d = true) : c ≠ d := by
  rintro rfl
  rw [visible.2 c member] at invisible
  cases invisible

theorem IsVisible.isPadded_eq_false {entry : String} (visible : IsVisible entry) :
    Text.isPadded entry = false := by
  refine Text.isPadded_eq_false fun c member => Bool.eq_false_iff.mpr fun blank => ?_
  exact visible.ne member (Text.isInvisible_of_isBlank blank) rfl

theorem WellFormed.ne_nil (wellFormed : WellFormed entries) : entries ≠ [] := by
  rintro rfl
  cases wellFormed.length_eq

theorem WellFormed.lines_intercalate (wellFormed : WellFormed entries) :
    lines ("\n".intercalate entries) = entries := by
  refine Text.lines_intercalate (fun entry member c inside => ?_) wellFormed.ne_nil
  exact (wellFormed.isVisible member).ne inside (by decide)

theorem WellFormed.getLast_intercalate (wellFormed : WellFormed entries) :
    ("\n".intercalate entries).toList.getLast? ≠ some '\n' := by
  obtain ⟨front, last, among, ends⟩ := Text.exists_getLast_intercalate wellFormed.ne_nil
  have visible := wellFormed.isVisible among
  have filled : last.toList ≠ [] := fun empty => visible.1 (String.toList_eq_nil_iff.mp empty)
  rw [ends, List.getLast?_append_of_ne_nil _ filled]
  intro feed
  exact visible.ne (List.mem_of_getLast? feed) (by decide) rfl

/-- No byte order mark stands in a text of well-formed entries. -/
theorem WellFormed.byteOrderMark_notMem (wellFormed : WellFormed entries) :
    Text.byteOrderMark ∉ ("\n".intercalate entries).toList := by
  intro member
  rcases Text.mem_intercalate member with feed | ⟨entry, among, inside⟩
  · cases List.mem_singleton.mp feed
  · exact (wellFormed.isVisible among).ne inside (by decide) rfl

/-! ## Reading -/

/-- Reading goes line by line when there is no byte order mark. -/
theorem ofText_of_isVisible (unmarked : Text.byteOrderMark ∉ text.toList)
    (visible : ∀ line ∈ lines (withoutFinalLineFeed text), IsVisible line) :
    ofText text = ofEntries (lines (withoutFinalLineFeed text)) := by
  have begins : ¬ (text.toList.head? == some Text.byteOrderMark) = true := by
    intro mark
    exact unmarked (List.mem_of_head? (beq_iff_eq.mp mark))
  have trim : (lines (withoutFinalLineFeed text)).findIdx? Text.isPadded = none :=
    List.findIdx?_eq_none_iff.mpr fun line member => (visible line member).isPadded_eq_false
  rw [ofText, if_neg begins]
  simp only [trim]

/-- What is read are the entries on the lines of the text. -/
theorem lines_of_ofText (read : ofText text = .ok list) :
    lines (withoutFinalLineFeed text) = list.entries := by
  simp only [ofText] at read
  split at read
  · cases read
  · split at read
    · cases read
    · exact (ofEntries_eq_ok_iff.mp read).2.symm

/-- Well-formed entries are read from the lines on which they stand. -/
theorem ofText_of_lines (unmarked : Text.byteOrderMark ∉ text.toList)
    (cut : lines (withoutFinalLineFeed text) = list.entries) : ofText text = .ok list := by
  have wellFormed := list.wellFormed
  rw [ofText_of_isVisible unmarked fun line member => wellFormed.isVisible (cut ▸ member), cut]
  exact ofEntries_eq_ok_iff.mpr ⟨wellFormed, rfl⟩

theorem ofText_intercalate (list : WordList) :
    ofText ("\n".intercalate list.entries) = .ok list := by
  have wellFormed := list.wellFormed
  apply ofText_of_lines wellFormed.byteOrderMark_notMem
  rw [Text.withoutFinalLineFeed_of_getLast wellFormed.getLast_intercalate,
    wellFormed.lines_intercalate]

theorem ofText_intercalate_append (list : WordList) :
    ofText ("\n".intercalate list.entries ++ "\n") = .ok list := by
  have wellFormed := list.wellFormed
  refine ofText_of_lines ?_ ?_
  · rw [String.toList_append]
    intro member
    rcases List.mem_append.mp member with inside | feed
    · exact wellFormed.byteOrderMark_notMem inside
    · exact absurd (List.mem_singleton.mp feed) (by decide)
  · rw [Text.withoutFinalLineFeed_append, wellFormed.lines_intercalate]

/-- The canonical text has a line feed between entries and one after the last. -/
theorem text_eq (list : WordList) : list.text = "\n".intercalate list.entries ++ "\n" := by
  have joined (entries : List String) (nonempty : entries ≠ []) :
      String.join (entries.map fun entry => entry ++ "\n") = "\n".intercalate entries ++ "\n" := by
    induction entries with
    | nil => exact absurd rfl nonempty
    | cons entry rest ih =>
      rw [List.map_cons, String.join_cons]
      cases rest with
      | nil => rw [String.intercalate_singleton]; simp
      | cons next others =>
        rw [ih (List.cons_ne_nil _ _), String.intercalate_cons_cons]
        simp only [String.append_assoc]
  exact joined list.entries list.wellFormed.ne_nil

/-- The canonical text is read back as its list. -/
theorem ofText_text (list : WordList) : ofText list.text = .ok list := by
  rw [text_eq]
  exact ofText_intercalate_append list

/-- The text has the entries on its lines, and they satisfy the schema: there are
2048 of them, no two the same, none of them empty or with a character that is blank,
a control character, a byte order mark or a zero-width space. -/
structure IsListing (text : String) (entries : List String) : Prop where
  length_eq : entries.length = 2048
  nodup : entries.Nodup
  nonempty : ∀ entry ∈ entries, entry ≠ ""
  visible : ∀ entry ∈ entries, ∀ c ∈ entry.toList,
    Text.isBlank c = false ∧ Text.isControl c = false ∧ c ≠ '\ufeff' ∧ c ≠ '\u200b'
  text_eq : text = "\n".intercalate entries ∨ text = "\n".intercalate entries ++ "\n"

theorem isInvisible_eq_false_iff {c : Char} :
    Text.isInvisible c = false ↔
      Text.isBlank c = false ∧ Text.isControl c = false ∧ c ≠ '\ufeff' ∧ c ≠ '\u200b' := by
  simp only [Text.isInvisible, Text.byteOrderMark, Text.zeroWidthSpace, Bool.or_eq_false_iff,
    beq_eq_false_iff_ne]
  tauto

theorem IsListing.wellFormed (listing : IsListing text entries) : WellFormed entries where
  length_eq := listing.length_eq
  nonempty := listing.nonempty
  visible entry member c inside :=
    isInvisible_eq_false_iff.mpr (listing.visible entry member c inside)
  nodup := listing.nodup

theorem WellFormed.isListing (wellFormed : WellFormed entries)
    (same : text = "\n".intercalate entries ∨ text = "\n".intercalate entries ++ "\n") :
    IsListing text entries where
  length_eq := wellFormed.length_eq
  nodup := wellFormed.nodup
  nonempty := wellFormed.nonempty
  visible entry member c inside :=
    isInvisible_eq_false_iff.mp (wellFormed.visible entry member c inside)
  text_eq := same

/-- **A text is read as a word list exactly when it is a listing**, and the list has
the entries of the listing. The canonical text of every list is read as this list. -/
theorem isListing_iff :
    (∀ text entries,
      IsListing text entries ↔ ∃ list, ofText text = .ok list ∧ list.entries = entries) ∧
    ∀ list : WordList, ofText list.text = .ok list := by
  refine ⟨fun text entries => ⟨?_, ?_⟩, ?_⟩
  · intro listing
    refine ⟨ofWellFormed entries listing.wellFormed, ?_, rfl⟩
    rcases listing.text_eq with rfl | rfl
    · exact ofText_intercalate (ofWellFormed entries listing.wellFormed)
    · exact ofText_intercalate_append (ofWellFormed entries listing.wellFormed)
  · rintro ⟨list, read, rfl⟩
    apply list.wellFormed.isListing
    rw [← lines_of_ofText read, Text.intercalate_lines]
    exact Text.withoutFinalLineFeed_cases text
  · intro list
    rw [text_eq]
    exact ofText_intercalate_append list

end MnemonicCode.WordList
