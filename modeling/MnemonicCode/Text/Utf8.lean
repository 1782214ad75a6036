import MnemonicCode.Octets

/-!
# Reading UTF-8

`Utf8.encode` gives the octets of a text. `Utf8.decode` reads octets as a text
or says where they stop being one: at the first octet where no character
starts, with the length of the longest part that could still have begun a
character, or at the start of a character that the end of the octets cuts off.

A character is read octet by octet. Its first octet fixes how many follow and
which values each of these may have; that the bounds of the second octet depend
on the first is what rules out overlong forms, surrogates and numbers past the
last code point.
-/

set_option autoImplicit false

namespace MnemonicCode.Utf8

/-- The octets of a text. -/
def encode (text : String) : Octets := text.toByteArray.data.toList

/-- The octets of a text are those of its characters, one after the other. -/
theorem encode_eq (text : String) : encode text = text.toList.flatMap String.utf8EncodeChar := by
  unfold encode
  rw [← String.utf8Encode_toList]
  exact List.toList_data_toByteArray

theorem encode_inj {left right : String} (same : encode left = encode right) : left = right :=
  String.toByteArray_inj.mp (ByteArray.ext (Array.toList_inj.mp same))

/-- Why octets are not a text: those from `index` on begin no character, or they end inside the
character that starts there. -/
inductive Fault where
  | invalid (index length : Nat)
  | incomplete (index : Nat)
  deriving DecidableEq, Repr

/-- The text of the fault. -/
def Fault.message : Fault → String
  | invalid index length => s!"invalid utf-8 sequence of {length} bytes from index {index}"
  | incomplete index => s!"incomplete utf-8 byte sequence from index {index}"

/-- The values that an octet may have. -/
structure Bounds where
  low : Nat
  high : Nat

/-- The values of an octet after the second of a character. -/
def continuation : Bounds := ⟨0x80, 0xbf⟩

/-- What is known of the character being read: where it starts, how many of its octets have been
read and what they spell, and the bounds of the octets to come. -/
structure Progress where
  start : Nat
  read : Nat
  value : Nat
  expected : List Bounds

/-- The progress after the first octet of a character with several, unless no
character begins with it. -/
def Progress.ofLead? (start lead : Nat) : Option Progress :=
  let progress (base : Nat) (expected : List Bounds) : Option Progress :=
    some ⟨start, 1, lead - base, expected⟩
  if 0xc2 ≤ lead ∧ lead ≤ 0xdf then progress 0xc0 [continuation]
  else if lead = 0xe0 then progress 0xe0 [⟨0xa0, 0xbf⟩, continuation]
  else if lead = 0xed then progress 0xe0 [⟨0x80, 0x9f⟩, continuation]
  else if 0xe1 ≤ lead ∧ lead ≤ 0xef then progress 0xe0 [continuation, continuation]
  else if lead = 0xf0 then progress 0xf0 [⟨0x90, 0xbf⟩, continuation, continuation]
  else if lead = 0xf4 then progress 0xf0 [⟨0x80, 0x8f⟩, continuation, continuation]
  else if 0xf1 ≤ lead ∧ lead ≤ 0xf3 then
    progress 0xf0 [continuation, continuation, continuation]
  else none

/-- Reads the octets from `index` on. The characters read so far come newest
first, and `progress` is the character that is not complete, if there is one. -/
def decodeFrom (index : Nat) (done : List Char) (progress : Option Progress) :
    Octets → Except Fault (List Char)
  | [] =>
    match progress with
    | none => .ok done.reverse
    | some partly => .error (.incomplete partly.start)
  | octet :: rest =>
    match progress with
    | none =>
      if octet.toNat < 0x80 then
        decodeFrom (index + 1) (Char.ofNat octet.toNat :: done) none rest
      else match Progress.ofLead? index octet.toNat with
        | none => .error (.invalid index 1)
        | some partly => decodeFrom (index + 1) done (some partly) rest
    | some partly =>
      let value := 64 * partly.value + (octet.toNat - 0x80)
      match partly.expected with
      | [] => .error (.invalid partly.start partly.read)
      | bounds :: later =>
        if bounds.low ≤ octet.toNat ∧ octet.toNat ≤ bounds.high then
          if later.isEmpty then
            decodeFrom (index + 1) (Char.ofNat value :: done) none rest
          else
            decodeFrom (index + 1) done
              (some ⟨partly.start, partly.read + 1, value, later⟩) rest
        else
          .error (.invalid partly.start partly.read)

/-- The text that the octets spell. -/
def decode (octets : Octets) : Except Fault String :=
  (decodeFrom 0 [] none octets).map String.ofList

end MnemonicCode.Utf8
