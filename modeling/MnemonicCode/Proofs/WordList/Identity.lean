import MnemonicCode.Proofs.WordList.Pin
import MnemonicCode.Proofs.WordList.Tables
import Mathlib

/-!
# Digests and the lists that they identify

The digest of a word list is taken of its octets: those of each entry in order, with a line
feed after every entry (`WordList.digest_eq`). Lists have the same octets exactly when they
are the same list, because the octets are those of a text that is read back as the list, and
no entry can hold a line feed. So two lists with one digest are one list, or their octets are
two messages with the same SHA-256 digest (`WordList.digest_identifies`).
-/

set_option autoImplicit false

namespace MnemonicCode

namespace Octets

/-! ## Hexadecimal digits -/

theorem digitChar_inj : ∀ left < 16, ∀ right < 16,
    Nat.digitChar left = Nat.digitChar right → left = right := by
  decide

theorem hexDigits_inj {left right : UInt8} (same : hexDigits left = hexDigits right) :
    left = right := by
  obtain ⟨high, low⟩ := List.cons_eq_cons.mp same
  have leftSmall := left.toNat_lt
  have rightSmall := right.toNat_lt
  have quotient := digitChar_inj _ (by omega) _ (by omega) high
  have remainder := digitChar_inj _ (by omega) _ (by omega) (List.cons_eq_cons.mp low).1
  apply UInt8.toNat_inj.mp
  omega

/-- Octets are determined by their hexadecimal digits. -/
theorem hex_inj {left right : Octets} : left.hex = right.hex ↔ left = right := by
  refine ⟨fun same => ?_, congrArg hex⟩
  have digits : left.flatMap hexDigits = right.flatMap hexDigits := String.ofList_inj.mp same
  clear same
  induction left generalizing right with
  | nil =>
    cases right with
    | nil => rfl
    | cons octet rest => cases digits
  | cons octet rest ih =>
    cases right with
    | nil => cases digits
    | cons other more =>
      rw [List.flatMap_cons, List.flatMap_cons] at digits
      obtain ⟨first, later⟩ := List.append_inj digits rfl
      rw [hexDigits_inj first, ih later]

end Octets

namespace WordList

variable {left right : WordList}

/-! ## The octets of a list -/

/-- The octets of the entries in order, with a line feed after each of them. -/
def octets (list : WordList) : Octets :=
  list.entries.flatMap fun entry => Utf8.encode entry ++ [0x0a]

theorem encode_text (list : WordList) : Utf8.encode list.text = list.octets := by
  rw [text, octets]
  induction list.entries with
  | nil => rfl
  | cons entry rest ih =>
    rw [List.map_cons, String.join_cons, Utf8.encode_append, Utf8.encode_append, ih,
      List.flatMap_cons]
    rfl

/-- The digest is that of the octets. -/
theorem digest_eq (list : WordList) : list.digest = (sha256 list.octets).hex := by
  rw [digest, encode_text]

/-- Lists with the same octets are the same list. -/
theorem eq_of_octets_eq (same : left.octets = right.octets) : left = right := by
  rw [← encode_text, ← encode_text] at same
  have texts : left.text = right.text := Utf8.encode_inj same
  have read := left.ofText_text
  rw [texts, right.ofText_text] at read
  cases read
  rfl

theorem octets_eq_iff : left.octets = right.octets ↔ left == right := by
  rw [beq_iff]
  constructor
  · intro same
    rw [eq_of_octets_eq same]
  · intro same
    rw [octets, octets, same]

/-! ## Digests -/

/-- **The octets of which a digest is taken determine the list**, so lists that differ have
different digests, unless their octets are a collision of SHA-256. -/
theorem digest_identifies (left right : WordList) :
    (left.digest = (sha256 left.octets).hex ∧ right.digest = (sha256 right.octets).hex) ∧
    (left.octets = right.octets ↔ left == right) ∧
    (left.digest = right.digest → ¬ left == right →
      left.octets ≠ right.octets ∧ sha256 left.octets = sha256 right.octets) := by
  refine ⟨⟨left.digest_eq, right.digest_eq⟩, octets_eq_iff, ?_⟩
  intro same differ
  rw [digest_eq, digest_eq, Octets.hex_inj] at same
  exact ⟨fun octets => differ (octets_eq_iff.mp octets), same⟩

end WordList

end MnemonicCode
