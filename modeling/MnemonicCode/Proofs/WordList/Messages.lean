import MnemonicCode.Proofs.WordList.Pin
import Mathlib

/-!
# What a refusal says

A text that is no word list is refused with one message. It quotes the number of the
entries, the index of an entry or the number of a line, and `WordList.ToldOfText` gives each
message in full with the conditions under which it is the one that is shown. A file is
refused with the message about its text or with one about the file itself
(`WordList.ToldOfFile`).

So a message can be taken at its word: a text is refused with it exactly when it is true of
the text and of nothing that is checked before (`WordList.ofText_message_iff`), and the same
holds of files (`WordList.ofContent_message_iff`).
-/

set_option autoImplicit false

namespace MnemonicCode.WordList

variable {entries : List String} {text path message : String} {pin : Option String}
  {octets : Octets} {content : Except File.Fault Octets}

/-! ## Entries -/

/-- What is said of entries when the first defective one is at the index. -/
inductive ToldOfEntries (entries : List String) : String → Prop where
  | empty {index : Nat} (least : IsLeast (defectiveIndices entries) index)
      (here : entries[index]? = some "") : ToldOfEntries entries s!"entry {index} is empty"
  | invisible {index : Nat} {entry : String} {c : Char}
      (least : IsLeast (defectiveIndices entries) index) (here : entries[index]? = some entry)
      (inside : c ∈ entry.toList)
      (hidden : Text.isBlank c = true ∨ Text.isControl c = true ∨ c = '\ufeff' ∨ c = '\u200b') :
      ToldOfEntries entries s!"entry {index} contains whitespace or an invisible character"
  | repeated {index first : Nat} {entry : String}
      (least : IsLeast (defectiveIndices entries) index) (here : entries[index]? = some entry)
      (earlier : first < index) (there : entries[first]? = some entry) :
      ToldOfEntries entries s!"entry {index} duplicates entry {first}"

theorem defect_message_iff :
    (∃ index fault, IsLeast (defectiveIndices entries) index ∧ DefectAt entries index fault ∧
      fault.message = message) ↔ ToldOfEntries entries message := by
  constructor
  · rintro ⟨index, fault, least, defect, rfl⟩
    cases defect with
    | empty here => exact .empty least here
    | invisible here inside hidden => exact .invisible least here inside hidden
    | repeated here earlier there => exact .repeated least here earlier there
  · intro told
    cases told with
    | empty least here => exact ⟨_, _, least, .empty here, rfl⟩
    | invisible least here inside hidden => exact ⟨_, _, least, .invisible here inside hidden, rfl⟩
    | repeated least here earlier there => exact ⟨_, _, least, .repeated here earlier there, rfl⟩

/-! ## Texts -/

/-- What is said of a text. Lines are counted from one and entries from zero. -/
inductive ToldOfText (text : String) : String → Prop where
  | byteOrderMark (marked : text.toList.head? = some '\ufeff') :
      ToldOfText text "resource starts with a byte order mark"
  | paddedLine {number : Nat} (unmarked : text.toList.head? ≠ some '\ufeff')
      (least : IsLeast (paddedNumbers text) number) :
      ToldOfText text s!"line {number} has surrounding whitespace"
  | wrongCount (unmarked : text.toList.head? ≠ some '\ufeff') (flush : paddedNumbers text = ∅)
      (count : (entryLines text).length ≠ 2048) :
      ToldOfText text s!"expected 2048 words, got {(entryLines text).length}"
  | entry {message : String} (unmarked : text.toList.head? ≠ some '\ufeff')
      (flush : paddedNumbers text = ∅) (count : (entryLines text).length = 2048)
      (told : ToldOfEntries (entryLines text) message) : ToldOfText text message

/-- **A text is refused with a message exactly when the message is what is to be said of
it.** -/
theorem ofText_message_iff :
    (∃ fault, ofText text = .error fault ∧ fault.message = message) ↔
      ToldOfText text message := by
  constructor
  · rintro ⟨fault, refused, rfl⟩
    cases complaint_of_ofText refused with
    | byteOrderMark marked => exact .byteOrderMark marked
    | paddedLine unmarked least => exact .paddedLine unmarked least
    | wrongCount unmarked flush count => exact .wrongCount unmarked flush count
    | entry unmarked flush count least defect =>
      exact .entry unmarked flush count (defect_message_iff.mp ⟨_, _, least, defect, rfl⟩)
  · intro told
    cases told with
    | byteOrderMark marked => exact ⟨_, ofText_of_marked marked, rfl⟩
    | paddedLine unmarked least =>
      obtain ⟨index, line, rfl, -⟩ := least.1
      exact ⟨_, ofText_of_padded unmarked least, rfl⟩
    | wrongCount unmarked flush count =>
      exact ⟨_, (Complaint.wrongCount unmarked flush count).ofText_eq, rfl⟩
    | entry unmarked flush count told =>
      obtain ⟨index, fault, least, defect, same⟩ := defect_message_iff.mpr told
      exact ⟨fault, (Complaint.entry unmarked flush count least defect).ofText_eq, same⟩

/-! ## Files -/

/-- What is said of a file. A pin that does not name the digest of its content is reported
whatever the content is. -/
inductive ToldOfFile (path : String) (pin : Option String)
    (content : Except File.Fault Octets) : String → Prop where
  | unreadable {fault : File.Fault} (unread : content = .error fault) :
      ToldOfFile path pin content s!"cannot read {path}: {fault.message}"
  | digestMismatch {octets : Octets} {given : String} (read : content = .ok octets)
      (pinned : pin = some given) (differs : ¬ NamesDigest given (sha256 octets).hex) :
      ToldOfFile path pin content s!"sha256 mismatch for {path}"
  | notText {octets : Octets} {fault : Utf8.Fault} (read : content = .ok octets)
      (names : ∀ given ∈ pin, NamesDigest given (sha256 octets).hex)
      (broken : Utf8.decode octets = .error fault) :
      ToldOfFile path pin content s!"not UTF-8: {fault.message}"
  | text {octets : Octets} {text message : String} (read : content = .ok octets)
      (names : ∀ given ∈ pin, NamesDigest given (sha256 octets).hex)
      (decoded : Utf8.decode octets = .ok text) (told : ToldOfText text message) :
      ToldOfFile path pin content message

theorem ofOctets_of_all_names (path : String)
    (names : ∀ given ∈ pin, NamesDigest given (sha256 octets).hex) :
    ofOctets path pin octets = ofOctets path none octets := by
  cases pin with
  | none => rfl
  | some given => exact ofOctets_of_names (names given rfl)

/-- **A file is refused with a message exactly when the message is what is to be said of
it.** -/
theorem ofContent_message_iff :
    (∃ fault, ofContent path pin content = .error fault ∧ fault.message = message) ↔
      ToldOfFile path pin content message := by
  constructor
  · rintro ⟨fault, refused, rfl⟩
    cases content with
    | error unread =>
      cases refused
      exact .unreadable rfl
    | ok octets =>
      by_cases names : ∀ given ∈ pin, NamesDigest given (sha256 octets).hex
      · rw [ofContent, ofOctets_of_all_names path names, ofOctets_none] at refused
        cases decoded : Utf8.decode octets with
        | error broken =>
          rw [decoded] at refused
          cases refused
          exact .notText rfl names decoded
        | ok text =>
          rw [decoded] at refused
          exact .text rfl names decoded (ofText_message_iff.mp ⟨fault, refused, rfl⟩)
      · push Not at names
        obtain ⟨given, pinned, differs⟩ := names
        cases pinned
        rw [ofContent, ofOctets_of_not_names differs] at refused
        cases refused
        exact .digestMismatch rfl rfl differs
  · intro told
    cases told with
    | unreadable unread =>
      rw [unread]
      exact ⟨_, rfl, rfl⟩
    | digestMismatch read pinned differs =>
      rw [read, pinned]
      exact ⟨_, ofOctets_of_not_names differs, rfl⟩
    | notText read names broken =>
      rw [read, ofContent, ofOctets_of_all_names path names, ofOctets_none, broken]
      exact ⟨_, rfl, rfl⟩
    | text read names decoded told =>
      rw [read, ofContent, ofOctets_of_all_names path names, ofOctets_none, decoded]
      exact ofText_message_iff.mpr told

end MnemonicCode.WordList
