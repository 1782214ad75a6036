import MnemonicCode.Json.Writer
import MnemonicCode.Proofs.Json.Reading
import Mathlib

/-!
# Reading what was written

Both writers spell the value that they write, with no gaps or with line feeds and spaces
in them (`spellsDocument_compact`, `spellsDocument_pretty`). So a value is read back from
either text (`parse_written`). This is asked of values that have a text: nothing in them
is broken off, and every number in them is spelled by what is written for it (`Writable`).
Integers of 64 bits are such numbers.
-/

set_option autoImplicit false

namespace MnemonicCode.Json

/-! ## Strings -/

/-- A character is spelled by what stands for it in a string. -/
theorem spellsChar_escapedChar (c : Char) : SpellsChar (escapedChar c) c := by
  rw [escapedChar.eq_def]
  split
  iterate 7 exact .short (by decide)
  split
  · next control =>
    have small : c.toNat < 32 := control
    have digit : ∀ value < 16, SpellsHexDigit value.digitChar value := fun value below =>
      ⟨below, .inl rfl⟩
    have digits := SpellsUnit.digits (digit 0 (by omega)) (digit 0 (by omega))
      (digit (c.toNat / 16) (by omega)) (digit (c.toNat % 16) (by omega))
    have value : 4096 * 0 + 256 * 0 + 16 * (c.toNat / 16) + c.toNat % 16 = c.toNat := by omega
    rw [value] at digits
    exact .unit digits
  · next visible =>
    exact .plain (not_lt.mp visible) ‹_› ‹_›

theorem spellsChars_escapedChar (chars : List Char) :
    SpellsChars (chars.flatMap escapedChar) chars := by
  induction chars with
  | nil => exact .nil
  | cons c rest ih => exact .cons (spellsChar_escapedChar c) ih

theorem spellsString_stringText (value : String) : SpellsString (stringText value) value :=
  .quoted (spellsChars_escapedChar value.toList)

/-! ## Values -/

mutual

/-- The value has a text. -/
def Writable : Json → Prop
  | .null => True
  | .boolean _ => True
  | .number value => SpellsNumber value.text value
  | .string _ => True
  | .array items ending => ending = none ∧ WritableItems items
  | .object members ending => ending = none ∧ WritableMembers members
  | .broken _ => False

/-- All items have a text. -/
def WritableItems : List Json → Prop
  | [] => True
  | item :: rest => Writable item ∧ WritableItems rest

/-- The values of all members have a text. -/
def WritableMembers : List (String × Json) → Prop
  | [] => True
  | (_, value) :: rest => Writable value ∧ WritableMembers rest

end

theorem spells_booleanText (value : Bool) : Spells (booleanText value) (.boolean value) := by
  cases value
  · exact .false
  · exact .true

/-! ## One line -/

theorem spellsMember_compact (name : String) {value : Json}
    (spelled : Spells (compactText value) value) :
    SpellsMember (stringText name ++ ':' :: compactText value) (name, value) :=
  .named (spellsString_stringText name) gap_nil gap_nil spelled

mutual

theorem spells_compactText : ∀ value, Writable value → Spells (compactText value) value
  | .null, _ => .null
  | .boolean value, _ => spells_booleanText value
  | .number _, writable => .number writable
  | .string value, _ => .string (spellsString_stringText value)
  | .array [] _, ⟨rfl, _⟩ => .emptyArray gap_nil
  | .array (item :: rest) _, ⟨rfl, writable⟩ =>
    .array gap_nil (spellsItems_compactItems (item :: rest) (List.cons_ne_nil _ _) writable)
  | .object [] _, ⟨rfl, _⟩ => .emptyObject gap_nil
  | .object (member :: rest) _, ⟨rfl, writable⟩ =>
    .object gap_nil
      (spellsMembers_compactMembers (member :: rest) (List.cons_ne_nil _ _) writable)

theorem spellsItems_compactItems : ∀ items, items ≠ [] → WritableItems items →
    SpellsItems (compactItems items) items
  | [], nonempty, _ => absurd rfl nonempty
  | [item], _, ⟨writable, _⟩ => .last (spells_compactText item writable) gap_nil
  | item :: next :: rest, _, ⟨writable, others⟩ =>
    .cons (spells_compactText item writable) gap_nil gap_nil
      (spellsItems_compactItems (next :: rest) (List.cons_ne_nil _ _) others)

theorem spellsMembers_compactMembers : ∀ members, members ≠ [] → WritableMembers members →
    SpellsMembers (compactMembers members) members
  | [], nonempty, _ => absurd rfl nonempty
  | [(name, value)], _, ⟨writable, _⟩ => by
    have spelled := spellsMember_compact name (spells_compactText value writable)
    have closed := SpellsMembers.last spelled gap_nil
    rwa [List.nil_append] at closed
  | (name, value) :: next :: rest, _, ⟨writable, others⟩ => by
    have spelled := spellsMember_compact name (spells_compactText value writable)
    have more := spellsMembers_compactMembers (next :: rest) (List.cons_ne_nil _ _) others
    have joined := SpellsMembers.cons spelled gap_nil gap_nil more
    rwa [List.nil_append, List.nil_append] at joined

end

/-! ## Several lines -/

theorem gap_newLine (level : Nat) : Gap (newLine level) := by
  intro c member
  rcases List.mem_cons.mp member with rfl | space
  · exact .inr (.inr (.inl rfl))
  · exact .inl (List.eq_of_mem_replicate space)

theorem spellsMember_pretty {level : Nat} (name : String) {value : Json}
    (spelled : Spells (prettyText level value) value) :
    SpellsMember (stringText name ++ ':' :: ' ' :: prettyText level value) (name, value) := by
  have space : Gap [' '] := by
    rintro c member
    exact .inl (List.mem_singleton.mp member)
  exact .named (spellsString_stringText name) gap_nil space spelled

mutual

theorem spells_prettyText : ∀ level value, Writable value → Spells (prettyText level value) value
  | _, .null, _ => .null
  | _, .boolean value, _ => spells_booleanText value
  | _, .number _, writable => .number writable
  | _, .string value, _ => .string (spellsString_stringText value)
  | _, .array [] _, ⟨rfl, _⟩ => .emptyArray gap_nil
  | level, .array (item :: rest) _, ⟨rfl, writable, others⟩ => by
    have spelled := spells_prettyText (level + 1) item writable
    have closed := spellsItems_prettyItems level rest others spelled
    have whole := Spells.array (gap_newLine (level + 1)) closed
    simpa only [prettyText, List.append_assoc, List.cons_append] using whole
  | _, .object [] _, ⟨rfl, _⟩ => .emptyObject gap_nil
  | level, .object ((name, value) :: rest) _, ⟨rfl, writable, others⟩ => by
    have spelled := spellsMember_pretty name (spells_prettyText (level + 1) value writable)
    have closed := spellsMembers_prettyMembers level rest others spelled
    have whole := Spells.object (gap_newLine (level + 1)) closed
    simpa only [prettyText, List.append_assoc, List.cons_append] using whole

theorem spellsItems_prettyItems : ∀ level rest, WritableItems rest →
    ∀ {text : List Char} {item : Json}, Spells text item →
      SpellsItems (text ++ prettyItems level rest) (item :: rest)
  | level, [], _, _, _, spelled => .last spelled (gap_newLine level)
  | level, next :: rest, ⟨writable, others⟩, _, _, spelled => by
    have following := spells_prettyText (level + 1) next writable
    have closed := spellsItems_prettyItems level rest others following
    have joined := SpellsItems.cons spelled gap_nil (gap_newLine (level + 1)) closed
    simpa only [prettyItems, List.nil_append, List.append_assoc, List.cons_append] using joined

theorem spellsMembers_prettyMembers : ∀ level rest, WritableMembers rest →
    ∀ {text : List Char} {member : String × Json}, SpellsMember text member →
      SpellsMembers (text ++ prettyMembers level rest) (member :: rest)
  | level, [], _, _, _, spelled => .last spelled (gap_newLine level)
  | level, (name, value) :: rest, ⟨writable, others⟩, _, _, spelled => by
    have following := spellsMember_pretty name (spells_prettyText (level + 1) value writable)
    have closed := spellsMembers_prettyMembers level rest others following
    have joined := SpellsMembers.cons spelled gap_nil (gap_newLine (level + 1)) closed
    simpa only [prettyMembers, List.nil_append, List.append_assoc, List.cons_append] using joined

end

/-! ## Texts -/

variable {value : Json}

theorem spellsDocument_compact (writable : Writable value) :
    SpellsDocument (compact value) value := by
  refine ⟨[], compactText value, [], ?_, gap_nil, spells_compactText value writable, gap_nil⟩
  rw [compact, String.toList_ofList, List.append_nil, List.nil_append]

theorem spellsDocument_pretty (writable : Writable value) :
    SpellsDocument (pretty value) value := by
  refine ⟨[], prettyText 0 value, [], ?_, gap_nil, spells_prettyText 0 value writable, gap_nil⟩
  rw [pretty, String.toList_ofList, List.append_nil, List.nil_append]

/-- **A written value is read back**, from one line and from several. -/
theorem parse_written (writable : Writable value) (shallow : value.depth ≤ nestingLimit) :
    parse (compact value) = .ok value ∧ parse (pretty value) = .ok value :=
  ⟨parse_of_spells (spellsDocument_compact writable) shallow,
    parse_of_spells (spellsDocument_pretty writable) shallow⟩

end MnemonicCode.Json
