import MnemonicCode.Settings.Location
import MnemonicCode.Proofs.Json.Writing
import MnemonicCode.Proofs.Text.Utf8
import Mathlib

/-!
# Written settings are read back

Settings are the same after they have been written and read again, on one line or on
several, in a text or in a file (`load_written`). Paths and pins may be any strings: what
is special in them is escaped, and the grammar of JSON undoes the escapes.

A text that spells a value is read as settings by this value alone (`ofText_of_spells`).
-/

set_option autoImplicit false

namespace MnemonicCode.Settings

open Json (SpellsDocument Writable)

/-! ## Texts and values -/

/-- The settings in a text depend only on the value that it spells. -/
theorem ofText_of_spells {text : String} {value : Json} (spelled : SpellsDocument text value)
    (shallow : value.depth ≤ Json.nestingLimit) : ofText text = ofJson value := by
  rw [ofText, ofDocument, Json.read_of_spells spelled shallow]
  cases ofJson value <;> rfl

/-! ## Settings as JSON -/

variable (settings : Settings)

/-- The two readers of members find what the writer puts there. -/
theorem ofJson_toJson : ofJson settings.toJson = .ok settings := by
  obtain ⟨strength, source⟩ := settings
  have strengthRead : strengthOf (strengthJson strength) = .ok strength := by
    cases strength <;> rfl
  have sourceRead : sourceOf (sourceJson source) = .ok source := by
    rcases source with _ | ⟨path, _ | pin⟩ <;> rfl
  have names : sourceName ≠ strengthName := by decide
  rw [toJson, ofJson, settingsMembers, if_pos rfl]
  simp only [strengthRead]
  change settingsMembers (some strength) none none [(sourceName, sourceJson source)] = _
  rw [settingsMembers, if_neg names, if_pos rfl]
  simp only [sourceRead]
  rfl

theorem spellsNumber_bits (strength : Strength) :
    Json.SpellsNumber (Nat.toDigits 10 strength.bits) (.natural strength.bits) := by
  refine .natural ?_
  cases strength <;> decide

theorem writable_toJson : Writable settings.toJson := by
  have sourceWritable : Writable (sourceJson settings.source) := by
    rcases settings.source with _ | ⟨path, _ | pin⟩ <;>
      simp [sourceJson, pinJson, Writable, Json.WritableMembers]
  exact ⟨rfl, spellsNumber_bits settings.strength, sourceWritable, trivial⟩

theorem depth_toJson : settings.toJson.depth ≤ Json.nestingLimit := by
  obtain ⟨strength, source⟩ := settings
  rcases source with _ | ⟨path, _ | pin⟩ <;>
    simp [toJson, sourceJson, pinJson, strengthJson, Json.depth, Json.membersDepth,
      Json.nestingLimit]

/-- Both texts of settings spell them, so both are read as these settings. -/
theorem ofText_written :
    ofText settings.compact = .ok settings ∧ ofText settings.pretty = .ok settings := by
  have writable := writable_toJson settings
  have shallow := depth_toJson settings
  rw [compact, pretty, ofText_of_spells (Json.spellsDocument_compact writable) shallow,
    ofText_of_spells (Json.spellsDocument_pretty writable) shallow]
  exact ⟨ofJson_toJson settings, ofJson_toJson settings⟩

/-! ## Files -/

theorem ofContent_encode {text : String} {settings : Settings}
    (read : ofText text = .ok settings) (path : String) :
    ofContent path (.ok (Utf8.encode text)) = .ok settings := by
  simp only [ofContent, Utf8.decode_encode, read]
  rfl

theorem load_eq (files : File.Access Id) (path : String) :
    load files path = ofContent path (files.read path) :=
  rfl

/-- **Settings that were written are read back as they were**, from a text and from a
file that holds it, on one line or on several. -/
theorem load_written :
    ofText settings.compact = .ok settings ∧ ofText settings.pretty = .ok settings ∧
      ∀ (files : File.Access Id) (path : String),
        files.read path = .ok (Utf8.encode settings.compact) ∨
            files.read path = .ok (Utf8.encode settings.pretty) →
          load files path = .ok settings := by
  obtain ⟨oneLine, manyLines⟩ := ofText_written settings
  refine ⟨oneLine, manyLines, fun files path content => ?_⟩
  rw [load_eq]
  rcases content with content | content
  · rw [content, ofContent_encode oneLine]
  · rw [content, ofContent_encode manyLines]

end MnemonicCode.Settings
