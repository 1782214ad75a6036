import MnemonicCode.Proofs.Json.Tokens
import Mathlib

/-!
# Reading what the grammar spells

A text that spells a value within the limit of nesting is read as this value, and nothing
is found wrong with it (`read_of_spells`, `fault?_of_spells`). So the gaps between tokens
and the spellings of characters do not show in the result.

The readers of values and containers go down with a bound. Two units for every character
suffice: one for the value, and one for the item or member that it is. The induction over
the grammar carries this along, and the number of containers that may still be opened.
-/

set_option autoImplicit false

namespace MnemonicCode.Json

variable {text rest gap : List Char} {value : Json} {bound level : Nat}

/-! ## Where a value begins -/

theorem isGap_of_isDigit {c : Char} (decimal : c = '-' ∨ c.isDigit = true) :
    isGap c = false ∧ c ≠ ']' := by
  refine ⟨Bool.eq_false_iff.mpr fun gap => ?_, ?_⟩
  · rcases isGap_iff.mp gap with rfl | rfl | rfl | rfl <;> exact absurd decimal (by decide)
  · rintro rfl
    exact absurd decimal (by decide)

/-- A value begins neither with a gap nor with the end of an array. -/
theorem exists_head_of_spells (spelled : Spells text value) :
    ∃ c more, text = c :: more ∧ isGap c = false ∧ c ≠ ']' := by
  cases spelled with
  | number spelled =>
    obtain ⟨c, more, rfl, decimal⟩ := exists_head_of_spellsNumber spelled
    exact ⟨c, more, rfl, isGap_of_isDigit decimal⟩
  | string spelled =>
    obtain ⟨body, rfl, -⟩ := exists_readString spelled
    exact ⟨_, _, rfl, rfl, by decide⟩
  | _ => exact ⟨_, _, rfl, rfl, by decide⟩

theorem exists_head_of_spellsItems {items : List Json} (spelled : SpellsItems text items) :
    ∃ c more, text = c :: more ∧ isGap c = false ∧ c ≠ ']' := by
  cases spelled with
  | last spelled blank =>
    obtain ⟨c, more, rfl, solid⟩ := exists_head_of_spells spelled
    exact ⟨c, _, rfl, solid⟩
  | cons spelled blankBefore blankAfter others =>
    obtain ⟨c, more, rfl, solid⟩ := exists_head_of_spells spelled
    exact ⟨c, _, rfl, solid⟩

theorem exists_head_of_spellsMember {member : String × Json}
    (spelled : SpellsMember text member) : ∃ more, text = '"' :: more := by
  obtain ⟨spelledName, blankBefore, blankAfter, spelled⟩ := spelled
  obtain ⟨body, rfl, -⟩ := exists_readString spelledName
  exact ⟨_, rfl⟩

theorem exists_head_of_spellsMembers {members : List (String × Json)}
    (spelled : SpellsMembers text members) : ∃ more, text = '"' :: more := by
  cases spelled with
  | last spelled blank =>
    obtain ⟨more, rfl⟩ := exists_head_of_spellsMember spelled
    exact ⟨_, rfl⟩
  | cons spelled blankBefore blankAfter others =>
    obtain ⟨more, rfl⟩ := exists_head_of_spellsMember spelled
    exact ⟨_, rfl⟩

/-! ## One step of the readers -/

theorem readValue_string {name : String} (spelled : SpellsString text name) (rest : List Char) :
    readValue (bound + 1) level (text ++ rest) = (.string name, .ok rest) := by
  obtain ⟨body, rfl, read⟩ := exists_readString spelled
  rw [List.cons_append, readValue, skipGap_cons rfl]
  simp only [read rest]
  rfl

theorem readValue_number {number : Number} (spelled : SpellsNumber text number)
    (closes : Closes rest) :
    readValue (bound + 1) level (text ++ rest) = (.number number, .ok rest) := by
  have read := readNumber_of_spells spelled closes
  obtain ⟨c, more, rfl, decimal⟩ := exists_head_of_spellsNumber spelled
  have other : ∀ d, c = d → d = '-' ∨ d.isDigit = true := by
    rintro _ rfl
    exact decimal
  rw [List.cons_append] at read ⊢
  rw [readValue, skipGap_cons (isGap_of_isDigit decimal).1]
  split
  · cases ‹_ :: _ = []›
  · exact absurd (other '"' (List.head_eq_of_cons_eq ‹_›)) (by decide)
  · exact absurd (other 'n' (List.head_eq_of_cons_eq ‹_›)) (by decide)
  · exact absurd (other 't' (List.head_eq_of_cons_eq ‹_›)) (by decide)
  · exact absurd (other 'f' (List.head_eq_of_cons_eq ‹_›)) (by decide)
  · exact absurd (other '[' (List.head_eq_of_cons_eq ‹_›)) (by decide)
  · exact absurd (other '{' (List.head_eq_of_cons_eq ‹_›)) (by decide)
  · rw [read]
    rfl

theorem readValue_emptyArray (blank : Gap gap) (rest : List Char) :
    readValue (bound + 1) (level + 1) ('[' :: (gap ++ ']' :: rest)) =
      (.array [] none, .ok rest) := by
  rw [readValue, skipGap_cons rfl]
  simp only [skipGap_append blank, skipGap_cons (c := ']') rfl]

theorem readValue_array {items : List Json} (blank : Gap gap) (spelled : SpellsItems text items)
    (rest : List Char) :
    readValue (bound + 1) (level + 1) ('[' :: (gap ++ (text ++ rest))) =
      readItem bound level [] (text ++ rest) := by
  obtain ⟨c, more, rfl, solid, other⟩ := exists_head_of_spellsItems spelled
  rw [readValue, skipGap_cons rfl]
  simp only [skipGap_append blank, List.cons_append, skipGap_cons solid]
  split
  · exact absurd (List.head_eq_of_cons_eq ‹_›) other
  · cases ‹_ :: _ = []›
  · rfl

theorem readValue_emptyObject (blank : Gap gap) (rest : List Char) :
    readValue (bound + 1) (level + 1) ('{' :: (gap ++ '}' :: rest)) =
      (.object [] none, .ok rest) := by
  rw [readValue, skipGap_cons rfl]
  simp only [skipGap_append blank, skipGap_cons (c := '}') rfl]

theorem readValue_object {members : List (String × Json)} (blank : Gap gap)
    (spelled : SpellsMembers text members) (rest : List Char) :
    readValue (bound + 1) (level + 1) ('{' :: (gap ++ (text ++ rest))) =
      readMember bound level [] (text ++ rest) := by
  obtain ⟨more, rfl⟩ := exists_head_of_spellsMembers spelled
  rw [readValue, skipGap_cons rfl]
  simp only [skipGap_append blank, List.cons_append, skipGap_cons (c := '"') rfl]
  rfl

/-- A comma or a closing bracket may follow a value, with a gap before it. -/
theorem closes_mark {mark : Char} (listed : mark = ',' ∨ mark = ']' ∨ mark = '}')
    (blank : Gap gap) (rest : List Char) : Closes (gap ++ mark :: rest) := by
  refine closes_append blank ?_
  rintro _ ⟨⟩
  exact .inr listed

section Items

variable {item : Json} (done : List Json)

theorem readItem_last (read : readValue bound level text = (item, .ok (gap ++ ']' :: rest)))
    (blank : Gap gap) :
    readItem (bound + 1) level done text = (.array (done.reverse ++ [item]) none, .ok rest) := by
  rw [readItem, read]
  simp only [skipGap_append blank, skipGap_cons (c := ']') rfl, List.reverse_cons]

theorem readItem_comma {after more : List Char} {items : List Json}
    (read : readValue bound level text = (item, .ok (gap ++ ',' :: (after ++ (more ++ rest)))))
    (blank : Gap gap) (blankAfter : Gap after) (spelled : SpellsItems more items) :
    readItem (bound + 1) level done text =
      readItem bound level (item :: done) (more ++ rest) := by
  obtain ⟨c, more, rfl, solid, other⟩ := exists_head_of_spellsItems spelled
  rw [readItem, read]
  simp only [skipGap_append blank, skipGap_cons (c := ',') rfl, skipGap_append blankAfter,
    List.cons_append, skipGap_cons solid]
  split
  · exact absurd (List.head_eq_of_cons_eq ‹_›) other
  · rfl

end Items

section Members

variable {name : String} {label before after : List Char} (done : List (String × Json))

theorem readMember_last (spelledName : SpellsString label name) (blankBefore : Gap before)
    (read : readValue bound level (after ++ text) = (value, .ok (gap ++ '}' :: rest)))
    (blank : Gap gap) :
    readMember (bound + 1) level done (label ++ (before ++ ':' :: (after ++ text))) =
      (.object (done.reverse ++ [(name, value)]) none, .ok rest) := by
  obtain ⟨body, rfl, readName⟩ := exists_readString spelledName
  rw [List.cons_append, readMember, readName]
  simp only [skipGap_append blankBefore, skipGap_cons (c := ':') rfl, read, skipGap_append blank,
    skipGap_cons (c := '}') rfl, List.reverse_cons]

theorem readMember_comma {next more : List Char} {members : List (String × Json)}
    (spelledName : SpellsString label name) (blankBefore : Gap before)
    (read : readValue bound level (after ++ text) =
      (value, .ok (gap ++ ',' :: (next ++ (more ++ rest)))))
    (blank : Gap gap) (blankNext : Gap next) (spelled : SpellsMembers more members) :
    readMember (bound + 1) level done (label ++ (before ++ ':' :: (after ++ text))) =
      readMember bound level ((name, value) :: done) (more ++ rest) := by
  obtain ⟨body, rfl, readName⟩ := exists_readString spelledName
  obtain ⟨more, rfl⟩ := exists_head_of_spellsMembers spelled
  rw [List.cons_append, readMember, readName]
  simp only [skipGap_append blankBefore, skipGap_cons (c := ':') rfl, read, skipGap_append blank,
    skipGap_cons (c := ',') rfl, skipGap_append blankNext, List.cons_append,
    skipGap_cons (c := '"') rfl]

end Members

/-! ## Values -/

/-- A container takes one level, and what is in it has the levels below. -/
theorem exists_level {inner : Nat} (shallow : inner + 1 ≤ level) :
    ∃ below, level = below + 1 ∧ inner ≤ below :=
  ⟨level - 1, by omega, by omega⟩

/-- What stands after a bracket has enough left of the bound. -/
theorem room_of_cons_append {c : Char} (enough : 2 * (c :: (gap ++ text)).length ≤ bound + 1) :
    2 * text.length ≤ bound := by
  simp only [List.length_cons, List.length_append] at enough
  omega

/-- What stands before a comma or a closing bracket has enough left of the bound. -/
theorem room_of_append_left {c : Char}
    (enough : 2 * (text ++ (gap ++ c :: rest)).length ≤ bound + 1) : 2 * text.length ≤ bound := by
  simp only [List.length_cons, List.length_append] at enough
  omega

/-- So has what stands after a comma. -/
theorem room_of_append_right {c : Char} {after more : List Char}
    (enough : 2 * (text ++ (gap ++ c :: (after ++ more))).length ≤ bound + 1) :
    2 * more.length ≤ bound := by
  simp only [List.length_cons, List.length_append] at enough
  omega

/-- The value of a member has the room of the member. -/
theorem room_of_member {label before after : List Char} {c : Char}
    (enough : 2 * (label ++ (before ++ c :: (after ++ text))).length ≤ bound) :
    2 * text.length ≤ bound := by
  simp only [List.length_cons, List.length_append] at enough
  omega

mutual

theorem readValue_of_spells {text rest : List Char} {value : Json} {bound level : Nat}
    (spelled : Spells text value) (enough : 2 * text.length ≤ bound)
    (shallow : value.depth ≤ level) (closes : Closes rest) :
    readValue bound level (text ++ rest) = (value, .ok rest) := by
  cases bound with
  | zero =>
    obtain ⟨c, more, rfl, -⟩ := exists_head_of_spells spelled
    simp at enough
  | succ bound =>
    cases spelled with
    | null => rfl
    | true => rfl
    | false => rfl
    | number spelled => exact readValue_number spelled closes
    | string spelled => exact readValue_string spelled rest
    | emptyArray blank =>
      obtain ⟨below, rfl, -⟩ := exists_level shallow
      rw [List.cons_append, List.append_assoc, List.singleton_append]
      exact readValue_emptyArray blank rest
    | array blank spelled =>
      obtain ⟨below, rfl, inner⟩ := exists_level shallow
      rw [List.cons_append, List.append_assoc, readValue_array blank spelled,
        readItem_of_spells spelled (room_of_cons_append enough) inner]
      rfl
    | emptyObject blank =>
      obtain ⟨below, rfl, -⟩ := exists_level shallow
      rw [List.cons_append, List.append_assoc, List.singleton_append]
      exact readValue_emptyObject blank rest
    | object blank spelled =>
      obtain ⟨below, rfl, inner⟩ := exists_level shallow
      rw [List.cons_append, List.append_assoc, readValue_object blank spelled,
        readMember_of_spells spelled (room_of_cons_append enough) inner]
      rfl

theorem readItem_of_spells {text : List Char} {items : List Json} {bound level : Nat}
    (spelled : SpellsItems text items) (enough : 2 * text.length ≤ bound)
    (shallow : itemsDepth items ≤ level) (done : List Json) (rest : List Char) :
    readItem bound level done (text ++ rest) =
      (.array (done.reverse ++ items) none, .ok rest) := by
  cases bound with
  | zero =>
    obtain ⟨c, more, rfl, -⟩ := exists_head_of_spellsItems spelled
    simp at enough
  | succ bound =>
    cases spelled with
    | @last text gap item spelled blank =>
      have inner : item.depth ≤ level := le_trans (le_max_left _ _) shallow
      have read := readValue_of_spells spelled (room_of_append_left enough) inner
        (closes_mark (.inr (.inl rfl)) blank rest)
      rw [List.append_assoc, List.append_assoc, List.singleton_append]
      exact readItem_last done read blank
    | @cons text before after more item items spelled blankBefore blankAfter others =>
      have inner : item.depth ≤ level := le_trans (le_max_left _ _) shallow
      have othersInner : itemsDepth items ≤ level := le_trans (le_max_right _ _) shallow
      have read := readValue_of_spells spelled (room_of_append_left enough) inner
        (closes_mark (.inl rfl) blankBefore (after ++ (more ++ rest)))
      rw [List.append_assoc, List.append_assoc, List.cons_append, List.append_assoc,
        readItem_comma done read blankBefore blankAfter others,
        readItem_of_spells others (room_of_append_right enough) othersInner, List.reverse_cons,
        List.append_assoc, List.singleton_append]

theorem readMember_of_spells {text : List Char} {members : List (String × Json)}
    {bound level : Nat} (spelled : SpellsMembers text members) (enough : 2 * text.length ≤ bound)
    (shallow : membersDepth members ≤ level) (done : List (String × Json)) (rest : List Char) :
    readMember bound level done (text ++ rest) =
      (.object (done.reverse ++ members) none, .ok rest) := by
  cases bound with
  | zero =>
    obtain ⟨more, rfl⟩ := exists_head_of_spellsMembers spelled
    simp at enough
  | succ bound =>
    cases spelled with
    | @last whole gap member spelledMember blank =>
      obtain @⟨label, before, after, text, name, value, spelledName, blankBefore, blankAfter,
        spelled⟩ := spelledMember
      have inner : value.depth ≤ level := le_trans (le_max_left _ _) shallow
      have room := room_of_member (room_of_append_left enough)
      have read := readValue_of_spells spelled room inner
        (closes_mark (.inr (.inr rfl)) blank rest)
      rw [← readValue_gap blankAfter] at read
      simp only [List.append_assoc, List.cons_append, List.nil_append]
      exact readMember_last done spelledName blankBefore read blank
    | @cons whole gap next more member members spelledMember blank blankNext others =>
      obtain @⟨label, before, after, text, name, value, spelledName, blankBefore, blankAfter,
        spelled⟩ := spelledMember
      have inner : value.depth ≤ level := le_trans (le_max_left _ _) shallow
      have othersInner : membersDepth members ≤ level := le_trans (le_max_right _ _) shallow
      have room := room_of_member (room_of_append_left enough)
      have read := readValue_of_spells spelled room inner
        (closes_mark (.inl rfl) blank (next ++ (more ++ rest)))
      rw [← readValue_gap blankAfter] at read
      simp only [List.append_assoc, List.cons_append]
      rw [readMember_comma done spelledName blankBefore read blank blankNext others,
        readMember_of_spells others (room_of_append_right enough) othersInner, List.reverse_cons,
        List.append_assoc, List.singleton_append]

end

/-! ## Texts -/

mutual

/-- Nothing is wrong with a value that the grammar spells. -/
theorem fault?_of_spells {text : List Char} {value : Json} (spelled : Spells text value) :
    value.fault? = none := by
  cases spelled with
  | array blank spelled => rw [fault?, itemsFault?_of_spells spelled, Option.or_none]
  | object blank spelled => rw [fault?, membersFault?_of_spells spelled, Option.or_none]
  | _ => rfl

theorem itemsFault?_of_spells {text : List Char} {items : List Json}
    (spelled : SpellsItems text items) : itemsFault? items = none := by
  cases spelled with
  | last spelled blank => rw [itemsFault?, fault?_of_spells spelled, itemsFault?, Option.or_none]
  | cons spelled blankBefore blankAfter others =>
    rw [itemsFault?, fault?_of_spells spelled, itemsFault?_of_spells others, Option.or_none]

theorem membersFault?_of_spells {text : List Char} {members : List (String × Json)}
    (spelled : SpellsMembers text members) : membersFault? members = none := by
  cases spelled with
  | last spelledMember blank =>
    obtain ⟨spelledName, blankBefore, blankAfter, spelled⟩ := spelledMember
    rw [membersFault?, fault?_of_spells spelled, membersFault?, Option.or_none]
  | cons spelledMember blankBefore blankAfter others =>
    obtain ⟨spelledName, _, _, spelled⟩ := spelledMember
    rw [membersFault?, fault?_of_spells spelled, membersFault?_of_spells others, Option.or_none]

end

/-- **A text that spells a value within the limit of nesting is read as this value.** -/
theorem read_of_spells {text : String} (spelled : SpellsDocument text value)
    (shallow : value.depth ≤ nestingLimit) : read text = ⟨value, none⟩ := by
  obtain ⟨before, core, after, whole, blankBefore, spelled, blankAfter⟩ := spelled
  have enough : 2 * core.length ≤ 2 * (before ++ (core ++ after)).length + 2 := by
    simp
    omega
  have closes : Closes after := by
    simpa using closes_append blankAfter closes_nil
  rw [read, whole, readValue_gap blankBefore,
    readValue_of_spells spelled enough shallow closes]
  simp [skipGap_gap blankAfter]

theorem parse_of_spells {text : String} (spelled : SpellsDocument text value)
    (shallow : value.depth ≤ nestingLimit) : parse text = .ok value := by
  have read := read_of_spells spelled shallow
  obtain ⟨before, core, after, -, -, spelled, -⟩ := spelled
  rw [parse, read]
  simp [fault?_of_spells spelled]

/-- A text that is parsed is read to its end, and its value is whole. -/
theorem read_of_parse {text : String} (parsed : parse text = .ok value) :
    read text = ⟨value, none⟩ ∧ value.fault? = none := by
  rw [parse] at parsed
  split at parsed
  · cases parsed
  · next whole =>
    obtain ⟨valueWhole, ended⟩ := Option.or_eq_none_iff.mp whole
    cases parsed
    exact ⟨congrArg (Document.mk _) ended, valueWhole⟩

end MnemonicCode.Json
