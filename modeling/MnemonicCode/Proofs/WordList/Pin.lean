import MnemonicCode.WordList.Pinned
import MnemonicCode.Proofs.Text.Utf8
import MnemonicCode.Proofs.WordList.Complaints
import Mathlib

/-!
# Pinned word lists

A pin names a digest when it is the digest in letters of any case, with any blank
characters around it (`NamesDigest`). A file is read as a word list exactly when its octets
have the digest that the pin names, if there is a pin, and are those of a text that is
read as this list (`load_pinned`). The pin is looked at before the content: a file with
another digest is refused in one way whatever it holds, and otherwise the pin changes
nothing.

The digest of the list that is read is the digest of the file, to which a line feed is
added when its last line has none. So a file that ends with a line feed can be pinned
to the digest of its list.
-/

set_option autoImplicit false

namespace MnemonicCode

namespace Text

/-! ## Trimming -/

variable {before core after : List Char} {text : String}

theorem dropWhile_of_solid (solid : ∀ c ∈ core, isBlank c = false) :
    core.dropWhile isBlank = core := by
  cases core with
  | nil => rfl
  | cons c rest =>
    rw [List.dropWhile_cons_of_neg]
    simp [solid c List.mem_cons_self]

/-- The blank characters around a text without blank characters are trimmed. -/
theorem trimmed_of_solid (whole : text.toList = before ++ core ++ after)
    (front : ∀ c ∈ before, isBlank c = true) (back : ∀ c ∈ after, isBlank c = true)
    (solid : ∀ c ∈ core, isBlank c = false) : (trimmed text).toList = core := by
  have backward : ∀ c ∈ after.reverse, isBlank c = true := fun c member =>
    back c (List.mem_reverse.mp member)
  have solidBackward : ∀ c ∈ core.reverse, isBlank c = false := fun c member =>
    solid c (List.mem_reverse.mp member)
  rw [trimmed, String.toList_ofList, whole, List.append_assoc,
    List.dropWhile_append_of_pos front]
  cases core with
  | nil =>
    have nothing : ([] ++ after).dropWhile isBlank = [] := List.dropWhile_eq_nil_iff.mpr back
    rw [nothing]
    rfl
  | cons c rest =>
    have kept : ¬ isBlank c = true := by simp [solid c List.mem_cons_self]
    rw [List.cons_append, List.dropWhile_cons_of_neg kept, ← List.cons_append,
      List.reverse_append, List.dropWhile_append_of_pos backward,
      dropWhile_of_solid solidBackward, List.reverse_reverse]

/-- Nothing but blank characters is trimmed. -/
theorem exists_trimmed (text : String) :
    ∃ before after, text.toList = before ++ (trimmed text).toList ++ after ∧
      (∀ c ∈ before, isBlank c = true) ∧ (∀ c ∈ after, isBlank c = true) := by
  have front := List.takeWhile_append_dropWhile (p := isBlank) (l := text.toList)
  have back := List.takeWhile_append_dropWhile (p := isBlank)
    (l := (text.toList.dropWhile isBlank).reverse)
  refine ⟨text.toList.takeWhile isBlank,
    ((text.toList.dropWhile isBlank).reverse.takeWhile isBlank).reverse, ?_, ?_, ?_⟩
  · rw [trimmed, String.toList_ofList, List.append_assoc, ← List.reverse_append, back,
      List.reverse_reverse, front]
  · intro c member
    exact List.mem_takeWhile_imp member
  · intro c member
    exact List.mem_takeWhile_imp (List.mem_reverse.mp member)

/-- Blank characters are no capital letters. -/
theorem toLower_of_isBlank {c : Char} (blank : isBlank c = true) : c.toLower = c := by
  rw [Char.toLower]
  split
  · next upper =>
    have least : 65 ≤ c.toNat := upper.1
    have greatest : c.toNat ≤ 90 := upper.2
    simp only [isBlank, inRanges, blankRanges, List.any_cons, List.any_nil, Bool.or_false,
      Bool.or_eq_true, Bool.and_eq_true, decide_eq_true_eq] at blank
    omega
  · rfl

end Text

namespace Octets

/-! ## Hexadecimal digits -/

theorem hexDigit_solid : ∀ value < 16,
    Text.isBlank (Nat.digitChar value) = false ∧
      (Nat.digitChar value).toLower = Nat.digitChar value := by
  decide

theorem exists_digit_of_mem_hex {octets : Octets} {c : Char} (member : c ∈ octets.hex.toList) :
    ∃ value < 16, c = Nat.digitChar value := by
  rw [hex, String.toList_ofList] at member
  obtain ⟨octet, -, inside⟩ := List.mem_flatMap.mp member
  have small := octet.toNat_lt
  simp only [hexDigits, List.mem_cons, List.not_mem_nil, or_false] at inside
  rcases inside with rfl | rfl
  · exact ⟨octet.toNat / 16, by omega, rfl⟩
  · exact ⟨octet.toNat % 16, by omega, rfl⟩

theorem isBlank_of_mem_hex {octets : Octets} {c : Char} (member : c ∈ octets.hex.toList) :
    Text.isBlank c = false := by
  obtain ⟨value, small, rfl⟩ := exists_digit_of_mem_hex member
  exact (hexDigit_solid value small).1

theorem map_toLower_hex (octets : Octets) :
    octets.hex.toList.map Char.toLower = octets.hex.toList := by
  refine (List.map_congr_left fun c member => ?_).trans (List.map_id _)
  obtain ⟨value, small, rfl⟩ := exists_digit_of_mem_hex member
  exact (hexDigit_solid value small).2

/-- The octets with a line feed after them, unless they end with one. -/
def withFinalLineFeed (octets : Octets) : Octets :=
  if octets.getLast? = some 0x0a then octets else octets ++ [0x0a]

end Octets

namespace Utf8

/-! ## Final line feeds -/

/-- No other character ends with the octet of the line feed. -/
theorem getLast?_utf8EncodeChar {c : Char} (other : c ≠ '\n') :
    (String.utf8EncodeChar c).getLast? ≠ some 0x0a := by
  have past : UInt8.ofNat (c.toNat % 0x40 + 0x80) ≠ 0x0a := by
    intro same
    have number := congrArg UInt8.toNat same
    rw [toNat_octet (by omega)] at number
    change c.toNat % 0x40 + 0x80 = 0x0a at number
    omega
  rw [utf8EncodeChar_eq]
  split
  · next small =>
    intro same
    have number := congrArg UInt8.toNat (Option.some.inj same)
    rw [List.getLast_singleton, toNat_octet (by omega)] at number
    exact other (Char.toNat_inj.mp number)
  · split
    · exact fun same => past (Option.some.inj same)
    · split
      · exact fun same => past (Option.some.inj same)
      · exact fun same => past (Option.some.inj same)

theorem encode_append (left right : String) :
    encode (left ++ right) = encode left ++ encode right := by
  simp only [encode_eq, String.toList_append, List.flatMap_append]

/-- Octets end with a line feed when their text does. -/
theorem getLast?_encode (text : String) :
    (encode text).getLast? = some 0x0a ↔ text.toList.getLast? = some '\n' := by
  rw [encode_eq]
  rcases List.eq_nil_or_concat text.toList with empty | ⟨front, c, whole⟩
  · rw [empty]
    simp
  · rw [whole, List.concat_eq_append, List.flatMap_append, List.getLast?_concat,
      List.flatMap_singleton, List.getLast?_append_of_ne_nil _ String.utf8EncodeChar_ne_nil,
      Option.some.injEq]
    constructor
    · intro same
      by_contra other
      exact getLast?_utf8EncodeChar other same
    · rintro rfl
      rfl

/-- A line feed is added to the octets as it is to the text. -/
theorem encode_withoutFinalLineFeed (text : String) :
    encode (Text.withoutFinalLineFeed text ++ "\n") = (encode text).withFinalLineFeed := by
  rw [Octets.withFinalLineFeed]
  by_cases ends : text.toList.getLast? = some '\n'
  · rw [if_pos ((getLast?_encode text).mpr ends)]
    rcases Text.withoutFinalLineFeed_cases text with same | same
    · obtain ⟨front, whole⟩ := List.getLast?_eq_some_iff.mp ends
      have parts : text = String.ofList front ++ "\n" := by
        apply String.toList_inj.mp
        rw [String.toList_append, String.toList_ofList, whole]
        rfl
      rw [parts, Text.withoutFinalLineFeed_append]
    · rw [← same]
  · rw [if_neg fun same => ends ((getLast?_encode text).mp same),
      Text.withoutFinalLineFeed_of_getLast ends, encode_append]
    rfl

end Utf8

namespace WordList

open Utf8 (encode decode_eq_ok_iff)

variable {octets : Octets} {path pin : String} {list : WordList}

/-! ## Pins -/

/-- The pin is the digest in letters of any case, with any blank characters around it. -/
def NamesDigest (pin digest : String) : Prop :=
  ∃ before core after, pin.toList = before ++ core ++ after ∧
    (∀ c ∈ before, Text.isBlank c = true) ∧ (∀ c ∈ after, Text.isBlank c = true) ∧
    core.map Char.toLower = digest.toList

theorem matchesPin_iff : matchesPin octets pin = true ↔ NamesDigest pin (sha256 octets).hex := by
  rw [matchesPin, Octets.map_toLower_hex, beq_iff_eq]
  constructor
  · intro same
    obtain ⟨before, after, whole, front, back⟩ := Text.exists_trimmed pin
    exact ⟨before, _, after, whole, front, back, same.symm⟩
  · rintro ⟨before, core, after, whole, front, back, same⟩
    have solid : ∀ c ∈ core, Text.isBlank c = false := by
      intro c member
      refine Bool.eq_false_iff.mpr fun blank => ?_
      have digit : c ∈ (sha256 octets).hex.toList := by
        rw [← same, ← Text.toLower_of_isBlank blank]
        exact List.mem_map_of_mem member
      rw [Octets.isBlank_of_mem_hex digit] at blank
      cases blank
    rw [Text.trimmed_of_solid whole front back solid, same]

/-! ## Reading -/

/-- No complaint about a text is about digests. -/
theorem ofText_ne_digestMismatch (text : String) :
    ofText text ≠ .error (.digestMismatch path) := by
  intro refused
  cases complaint_of_ofText refused with
  | entry unmarked flush count least defect => cases defect

theorem ofOctets_none (path : String) (octets : Octets) :
    ofOctets path none octets =
      match Utf8.decode octets with
      | .error fault => .error (.notText fault)
      | .ok text => ofText text :=
  rfl

theorem ofOctets_of_names (names : NamesDigest pin (sha256 octets).hex) :
    ofOctets path (some pin) octets = ofOctets path none octets := by
  have passed : (some pin).all (matchesPin octets) = true := matchesPin_iff.mpr names
  rw [ofOctets, if_pos passed]
  rfl

theorem ofOctets_of_not_names (differs : ¬ NamesDigest pin (sha256 octets).hex) :
    ofOctets path (some pin) octets = .error (.digestMismatch path) := by
  have failed : ¬ (some pin).all (matchesPin octets) = true := fun passed =>
    differs (matchesPin_iff.mp passed)
  rw [ofOctets, if_neg failed]

/-- Without a pin the octets are read when they are those of a text that is. -/
theorem ofOctets_none_eq_ok_iff :
    ofOctets path none octets = .ok list ↔
      ∃ text, octets = encode text ∧ ofText text = .ok list := by
  rw [ofOctets_none]
  cases decoded : Utf8.decode octets with
  | error fault =>
    constructor
    · exact nofun
    · rintro ⟨text, same, -⟩
      rw [decode_eq_ok_iff.mpr same] at decoded
      cases decoded
  | ok text =>
    constructor
    · exact fun read => ⟨text, decode_eq_ok_iff.mp decoded, read⟩
    · rintro ⟨other, same, read⟩
      rw [decode_eq_ok_iff.mpr same] at decoded
      cases decoded
      exact read

theorem ofOctets_none_ne_digestMismatch :
    ofOctets path none octets ≠ .error (.digestMismatch path) := by
  rw [ofOctets_none]
  split
  · exact nofun
  · exact ofText_ne_digestMismatch _

/-- With a pin the octets must have its digest besides. -/
theorem ofOctets_eq_ok_iff {pin : Option String} :
    ofOctets path pin octets = .ok list ↔
      (∀ given ∈ pin, NamesDigest given (sha256 octets).hex) ∧
        ofOctets path none octets = .ok list := by
  cases pin with
  | none =>
    constructor
    · exact fun read => ⟨nofun, read⟩
    · exact And.right
  | some pin =>
    constructor
    · intro read
      by_cases names : NamesDigest pin (sha256 octets).hex
      · rw [ofOctets_of_names names] at read
        refine ⟨?_, read⟩
        rintro given ⟨⟩
        exact names
      · rw [ofOctets_of_not_names names] at read
        cases read
    · rintro ⟨names, read⟩
      rw [ofOctets_of_names (names pin rfl), read]

/-- A digest is reported exactly when it is not the one that the pin names. -/
theorem ofOctets_eq_digestMismatch_iff :
    ofOctets path (some pin) octets = .error (.digestMismatch path) ↔
      ¬ NamesDigest pin (sha256 octets).hex := by
  constructor
  · intro refused names
    rw [ofOctets_of_names names] at refused
    exact ofOctets_none_ne_digestMismatch refused
  · exact ofOctets_of_not_names

/-- **The digest of a list that is read from octets is theirs**, but for the line feed
at the end. -/
theorem digest_eq_of_ofOctets (read : ofOctets path none octets = .ok list) :
    list.digest = (sha256 octets.withFinalLineFeed).hex := by
  obtain ⟨text, rfl, parsed⟩ := ofOctets_none_eq_ok_iff.mp read
  have canonical : list.text = Text.withoutFinalLineFeed text ++ "\n" := by
    rw [text_eq, ← lines_of_ofText parsed, Text.intercalate_lines]
  rw [digest, canonical, Utf8.encode_withoutFinalLineFeed]

/-! ## Files -/

theorem load_eq (files : File.Access Id) (path : String) (pin : Option String) :
    load files path pin = ofContent path pin (files.read path) :=
  rfl

/-- **A file is read as a word list exactly when it has the digest that the pin names
and holds a text that is read as this list.** Another digest is reported as such,
whatever the file holds; with the digest of the pin, the outcome is the one without a
pin. The digest of the list is that of the file with a line feed at its end, so a file
that has one there is read with every pin that names the digest of its list. -/
theorem load_pinned (files : File.Access Id) (path : String) :
    (∀ pin list, load files path pin = .ok list ↔
      ∃ text, files.read path = .ok (encode text) ∧
        (∀ given ∈ pin, NamesDigest given (sha256 (encode text)).hex) ∧ ofText text = .ok list) ∧
    (∀ pin, load files path (some pin) = .error (.digestMismatch path) ↔
      ∃ octets, files.read path = .ok octets ∧ ¬ NamesDigest pin (sha256 octets).hex) ∧
    (∀ pin, load files path (some pin) = load files path none ∨
      load files path (some pin) = .error (.digestMismatch path)) ∧
    (∀ octets list, files.read path = .ok octets → load files path none = .ok list →
      list.digest = (sha256 octets.withFinalLineFeed).hex ∧
      (octets.getLast? = some 0x0a →
        ∀ pin, NamesDigest pin list.digest → load files path (some pin) = .ok list)) := by
  simp only [load_eq]
  cases files.read path with
  | error fault =>
    refine ⟨fun pin list => ?_, fun pin => ?_, fun pin => .inl rfl, ?_⟩
    · constructor
      · exact nofun
      · rintro ⟨text, ⟨⟩, -⟩
    · constructor
      · exact nofun
      · rintro ⟨octets, ⟨⟩, -⟩
    · rintro octets list ⟨⟩
  | ok octets =>
    simp only [ofContent]
    refine ⟨fun pin list => ?_, fun pin => ?_, fun pin => ?_, ?_⟩
    · rw [ofOctets_eq_ok_iff, ofOctets_none_eq_ok_iff]
      constructor
      · rintro ⟨names, text, rfl, read⟩
        exact ⟨text, rfl, names, read⟩
      · rintro ⟨text, ⟨⟩, names, read⟩
        exact ⟨names, text, rfl, read⟩
    · rw [ofOctets_eq_digestMismatch_iff]
      constructor
      · exact fun differs => ⟨octets, rfl, differs⟩
      · rintro ⟨_, ⟨⟩, differs⟩
        exact differs
    · by_cases names : NamesDigest pin (sha256 octets).hex
      · exact .inl (ofOctets_of_names names)
      · exact .inr (ofOctets_of_not_names names)
    · rintro _ list ⟨⟩ read
      have digest := digest_eq_of_ofOctets read
      refine ⟨digest, fun ends pin names => ?_⟩
      rw [digest, Octets.withFinalLineFeed, if_pos ends] at names
      rw [ofOctets_of_names names, read]

end WordList

end MnemonicCode
