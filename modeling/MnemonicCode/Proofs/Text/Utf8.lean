import MnemonicCode.Text.Utf8
import Mathlib

/-!
# Reading UTF-8 undoes writing it

Octets are read as a text exactly when they are the octets of this text
(`decode_eq_ok_iff`), so octets that are not UTF-8 are refused and no text is lost.

The reader goes through the octets of a character with the number spelled so far and
the bounds of those to come. What it can meet after a first octet is told by `Lead`.
Octets within these bounds spell a code point whose octets they are
(`utf8EncodeChar_of_lead`), and the octets of every character past ASCII lie within
them (`exists_lead`). The bounds of the second octet carry the whole argument: without
them two sequences would spell one number, or a number that is no code point.
-/

set_option autoImplicit false

namespace MnemonicCode.Utf8

/-! ## Bounds -/

/-- The octet has one of the values. -/
def Bounds.Holds (bounds : Bounds) (octet : UInt8) : Prop :=
  bounds.low ≤ octet.toNat ∧ octet.toNat ≤ bounds.high

/-- The values of the second octet of three. -/
def secondOfThree (lead : Nat) : Bounds :=
  ⟨if lead = 0xe0 then 0xa0 else 0x80, if lead = 0xed then 0x9f else 0xbf⟩

/-- The values of the second octet of four. -/
def secondOfFour (lead : Nat) : Bounds :=
  ⟨if lead = 0xf0 then 0x90 else 0x80, if lead = 0xf4 then 0x8f else 0xbf⟩

variable {lead octet : UInt8}

theorem continuation_holds :
    continuation.Holds octet ↔ 0x80 ≤ octet.toNat ∧ octet.toNat ≤ 0xbf :=
  Iff.rfl

/-- The second octet of three spells no number of two octets and no surrogate. -/
theorem secondOfThree_holds :
    (secondOfThree lead.toNat).Holds octet ↔
      (0x80 ≤ octet.toNat ∧ octet.toNat ≤ 0xbf) ∧
        (lead.toNat = 0xe0 → 0xa0 ≤ octet.toNat) ∧ (lead.toNat = 0xed → octet.toNat ≤ 0x9f) := by
  simp only [Bounds.Holds, secondOfThree]
  split <;> split <;> omega

/-- The second octet of four spells no number of three octets and none past the last
code point. -/
theorem secondOfFour_holds :
    (secondOfFour lead.toNat).Holds octet ↔
      (0x80 ≤ octet.toNat ∧ octet.toNat ≤ 0xbf) ∧
        (lead.toNat = 0xf0 → 0x90 ≤ octet.toNat) ∧ (lead.toNat = 0xf4 → octet.toNat ≤ 0x8f) := by
  simp only [Bounds.Holds, secondOfFour]
  split <;> split <;> omega

/-! ## First octets -/

/-- What is known of a character after its first octet, by the number of its octets. -/
inductive Lead (start lead : Nat) : Progress → Prop where
  | two (least : 0xc2 ≤ lead) (greatest : lead ≤ 0xdf) :
      Lead start lead ⟨start, 1, lead - 0xc0, [continuation]⟩
  | three (least : 0xe0 ≤ lead) (greatest : lead ≤ 0xef) :
      Lead start lead ⟨start, 1, lead - 0xe0, [secondOfThree lead, continuation]⟩
  | four (least : 0xf0 ≤ lead) (greatest : lead ≤ 0xf4) :
      Lead start lead ⟨start, 1, lead - 0xf0, [secondOfFour lead, continuation, continuation]⟩

theorem lead_of_ofLead? {start lead : Nat} {partly : Progress}
    (found : Progress.ofLead? start lead = some partly) : Lead start lead partly := by
  simp only [Progress.ofLead?] at found
  split at found
  · cases found
    exact .two (by omega) (by omega)
  split at found
  · next same =>
    subst same
    cases found
    exact .three (by omega) (by omega)
  split at found
  · next same =>
    subst same
    cases found
    exact .three (by omega) (by omega)
  split at found
  · cases found
    have general : Lead start lead _ := .three (by omega) (by omega)
    rwa [secondOfThree, if_neg (by omega), if_neg (by omega)] at general
  split at found
  · next same =>
    subst same
    cases found
    exact .four (by omega) (by omega)
  split at found
  · next same =>
    subst same
    cases found
    exact .four (by omega) (by omega)
  split at found
  · cases found
    have general : Lead start lead _ := .four (by omega) (by omega)
    rwa [secondOfFour, if_neg (by omega), if_neg (by omega)] at general
  · cases found

theorem Lead.ofLead?_eq {start lead : Nat} {partly : Progress} (begins : Lead start lead partly) :
    Progress.ofLead? start lead = some partly := by
  cases begins with
  | two least greatest => rw [Progress.ofLead?, if_pos ⟨least, greatest⟩]
  | three least greatest =>
    simp only [Progress.ofLead?, secondOfThree]
    rw [if_neg (by omega)]
    split
    · next same => subst same; rfl
    split
    · next same => subst same; rfl
    rw [if_pos (by omega)]
    rfl
  | four least greatest =>
    simp only [Progress.ofLead?, secondOfFour]
    rw [if_neg (by omega), if_neg (by omega), if_neg (by omega), if_neg (by omega)]
    split
    · next same => subst same; rfl
    split
    · next same => subst same; rfl
    rw [if_pos (by omega)]
    rfl

theorem Lead.expected_ne_nil {start lead : Nat} {partly : Progress}
    (begins : Lead start lead partly) : partly.expected ≠ [] := by
  cases begins <;> exact List.cons_ne_nil _ _

/-! ## Characters -/

/-- The octets of a character, by its number. -/
theorem utf8EncodeChar_eq (c : Char) : String.utf8EncodeChar c =
    if c.toNat ≤ 0x7f then [UInt8.ofNat c.toNat]
    else if c.toNat ≤ 0x7ff then
      [UInt8.ofNat (c.toNat / 64 % 0x20 + 0xc0), UInt8.ofNat (c.toNat % 0x40 + 0x80)]
    else if c.toNat ≤ 0xffff then
      [UInt8.ofNat (c.toNat / 4096 % 0x10 + 0xe0), UInt8.ofNat (c.toNat / 64 % 0x40 + 0x80),
        UInt8.ofNat (c.toNat % 0x40 + 0x80)]
    else
      [UInt8.ofNat (c.toNat / 262144 % 0x08 + 0xf0), UInt8.ofNat (c.toNat / 4096 % 0x40 + 0x80),
        UInt8.ofNat (c.toNat / 64 % 0x40 + 0x80), UInt8.ofNat (c.toNat % 0x40 + 0x80)] :=
  rfl

theorem utf8EncodeChar_of_ascii {c : Char} (small : c.toNat ≤ 0x7f) :
    String.utf8EncodeChar c = [UInt8.ofNat c.toNat] := by
  rw [utf8EncodeChar_eq, if_pos small]

theorem toNat_ofNat {number : Nat} (valid : number.isValidChar) :
    (Char.ofNat number).toNat = number := by
  simp [Char.ofNat, valid, Char.toNat, Char.ofNatAux]

theorem octet_eq {number : Nat} (same : number = octet.toNat) : UInt8.ofNat number = octet := by
  rw [same, UInt8.ofNat_toNat]

theorem toNat_octet {number : Nat} (small : number < 256) : (UInt8.ofNat number).toNat = number :=
  UInt8.toNat_ofNat_of_lt' small

/-- The number that octets spell when `value` is spelled before them. -/
def payload (value : Nat) (octets : Octets) : Nat :=
  octets.foldl (fun value octet => 64 * value + (octet.toNat - 0x80)) value

/-- The octets that complete a first octet spell a code point. -/
theorem isValidChar_payload {start : Nat} {partly : Progress} {tail : Octets}
    (begins : Lead start lead.toNat partly)
    (bounded : List.Forall₂ Bounds.Holds partly.expected tail) :
    (payload partly.value tail).isValidChar := by
  cases begins with
  | two least greatest =>
    obtain _ | ⟨second, ⟨⟩⟩ := bounded
    simp only [continuation_holds] at second
    simp only [payload, List.foldl_cons, List.foldl_nil, Nat.isValidChar]
    omega
  | three least greatest =>
    obtain _ | ⟨second, _ | ⟨third, ⟨⟩⟩⟩ := bounded
    simp only [continuation_holds, secondOfThree_holds] at second third
    simp only [payload, List.foldl_cons, List.foldl_nil, Nat.isValidChar]
    omega
  | four least greatest =>
    obtain _ | ⟨second, _ | ⟨third, _ | ⟨fourth, ⟨⟩⟩⟩⟩ := bounded
    simp only [continuation_holds, secondOfFour_holds] at second third fourth
    simp only [payload, List.foldl_cons, List.foldl_nil, Nat.isValidChar]
    omega

/-- A first octet and octets that complete it are the octets of a character. -/
theorem utf8EncodeChar_of_lead {start : Nat} {partly : Progress} {tail : Octets} {c : Char}
    (begins : Lead start lead.toNat partly)
    (bounded : List.Forall₂ Bounds.Holds partly.expected tail)
    (number : c.toNat = payload partly.value tail) :
    String.utf8EncodeChar c = lead :: tail := by
  cases begins with
  | two least greatest =>
    obtain _ | ⟨second, ⟨⟩⟩ := bounded
    next x =>
    simp only [continuation_holds] at second
    simp only [payload, List.foldl_cons, List.foldl_nil] at number
    rw [utf8EncodeChar_eq, if_neg (by omega), if_pos (by omega), @octet_eq lead _ (by omega),
      @octet_eq x _ (by omega)]
  | three least greatest =>
    obtain _ | ⟨second, _ | ⟨third, ⟨⟩⟩⟩ := bounded
    next x y =>
    simp only [continuation_holds, secondOfThree_holds] at second third
    simp only [payload, List.foldl_cons, List.foldl_nil] at number
    rw [utf8EncodeChar_eq, if_neg (by omega), if_neg (by omega), if_pos (by omega),
      @octet_eq lead _ (by omega), @octet_eq x _ (by omega), @octet_eq y _ (by omega)]
  | four least greatest =>
    obtain _ | ⟨second, _ | ⟨third, _ | ⟨fourth, ⟨⟩⟩⟩⟩ := bounded
    next x y z =>
    simp only [continuation_holds, secondOfFour_holds] at second third fourth
    simp only [payload, List.foldl_cons, List.foldl_nil] at number
    rw [utf8EncodeChar_eq, if_neg (by omega), if_neg (by omega), if_neg (by omega),
      @octet_eq lead _ (by omega), @octet_eq x _ (by omega), @octet_eq y _ (by omega),
      @octet_eq z _ (by omega)]

/-- A character past ASCII has a first octet and octets that complete it. -/
theorem exists_lead (start : Nat) {c : Char} (high : 0x7f < c.toNat) :
    ∃ lead partly tail, String.utf8EncodeChar c = lead :: tail ∧ Lead start lead.toNat partly ∧
      List.Forall₂ Bounds.Holds partly.expected tail ∧ c.toNat = payload partly.value tail := by
  have valid : c.toNat < 0xd800 ∨ 0xdfff < c.toNat ∧ c.toNat < 0x110000 := c.valid
  have last := toNat_octet (show c.toNat % 0x40 + 0x80 < 256 by omega)
  have middle := toNat_octet (show c.toNat / 64 % 0x40 + 0x80 < 256 by omega)
  have outer := toNat_octet (show c.toNat / 4096 % 0x40 + 0x80 < 256 by omega)
  rw [utf8EncodeChar_eq, if_neg (by omega)]
  split
  · have first := toNat_octet (show c.toNat / 64 % 0x20 + 0xc0 < 256 by omega)
    refine ⟨_, _, _, rfl, .two ?_ ?_, .cons (continuation_holds.mpr ?_) .nil, ?_⟩
    all_goals
      simp only [payload, List.foldl_cons, List.foldl_nil, first, last]
      omega
  split
  · have first := toNat_octet (show c.toNat / 4096 % 0x10 + 0xe0 < 256 by omega)
    refine ⟨_, _, _, rfl, .three ?_ ?_, .cons (secondOfThree_holds.mpr ?_)
      (.cons (continuation_holds.mpr ?_) .nil), ?_⟩
    all_goals
      simp only [payload, List.foldl_cons, List.foldl_nil, first, middle, last]
      omega
  · have first := toNat_octet (show c.toNat / 262144 % 0x08 + 0xf0 < 256 by omega)
    refine ⟨_, _, _, rfl, .four ?_ ?_, .cons (secondOfFour_holds.mpr ?_)
      (.cons (continuation_holds.mpr ?_) (.cons (continuation_holds.mpr ?_) .nil)), ?_⟩
    all_goals
      simp only [payload, List.foldl_cons, List.foldl_nil, first, outer, middle, last]
      omega

/-! ## Reading characters -/

variable {done : List Char} {rest : Octets}

/-- Octets within the bounds complete the character. -/
theorem decodeFrom_complete {partly : Progress} {tail : Octets} (index : Nat)
    (pending : partly.expected ≠ [])
    (bounded : List.Forall₂ Bounds.Holds partly.expected tail) :
    decodeFrom index done (some partly) (tail ++ rest)
      = decodeFrom (index + tail.length) (Char.ofNat (payload partly.value tail) :: done) none
          rest := by
  obtain ⟨start, read, value, expected⟩ := partly
  change List.Forall₂ Bounds.Holds expected tail at bounded
  induction bounded generalizing index read value with
  | nil => exact absurd rfl pending
  | @cons bounds octet later others holds more ih =>
    have within : bounds.low ≤ octet.toNat ∧ octet.toNat ≤ bounds.high := holds
    rw [List.cons_append, decodeFrom]
    simp only [if_pos within]
    cases more with
    | nil => rfl
    | @cons _ next _ others _ _ =>
      have spelled : payload value (octet :: next :: others)
          = payload (64 * value + (octet.toNat - 0x80)) (next :: others) := List.foldl_cons ..
      have place : index + (octet :: next :: others).length
          = index + 1 + (next :: others).length := by
        rw [List.length_cons]
        omega
      rw [if_neg (by simp), ih _ _ _ (List.cons_ne_nil _ _), spelled, place]

/-- A character that is read was completed by octets within the bounds. -/
theorem exists_completion {partly : Progress} {octets : Octets} {index : Nat}
    {characters : List Char} (pending : partly.expected ≠ [])
    (decoded : decodeFrom index done (some partly) octets = .ok characters) :
    ∃ tail rest, octets = tail ++ rest ∧
      List.Forall₂ Bounds.Holds partly.expected tail := by
  obtain ⟨start, read, value, expected⟩ := partly
  induction expected generalizing index read value octets with
  | nil => exact absurd rfl pending
  | cons bounds later ih =>
    cases octets with
    | nil => cases decoded
    | cons octet octets =>
      rw [decodeFrom] at decoded
      simp only at decoded
      split at decoded
      · next holds =>
        cases later with
        | nil => exact ⟨[octet], octets, rfl, .cons holds .nil⟩
        | cons next others =>
          rw [if_neg (by simp)] at decoded
          obtain ⟨tail, rest, rfl, bounded⟩ := ih _ _ (List.cons_ne_nil _ _) decoded
          exact ⟨octet :: tail, rest, rfl, .cons holds bounded⟩
      · cases decoded

/-- The octets of a character are read as this character. -/
theorem decodeFrom_utf8EncodeChar (index : Nat) (c : Char) :
    decodeFrom index done none (String.utf8EncodeChar c ++ rest)
      = decodeFrom (index + (String.utf8EncodeChar c).length) (c :: done) none rest := by
  by_cases small : c.toNat ≤ 0x7f
  · have number := toNat_octet (show c.toNat < 256 by omega)
    rw [utf8EncodeChar_of_ascii small, List.singleton_append, decodeFrom]
    simp only [number]
    rw [if_pos (by omega), Char.ofNat_toNat]
    rfl
  · obtain ⟨lead, partly, tail, same, begins, bounded, number⟩ :=
      exists_lead index (Nat.lt_of_not_le small)
    have high : ¬ lead.toNat < 0x80 := by
      cases begins <;> omega
    rw [same, List.cons_append, decodeFrom]
    simp only [if_neg high, begins.ofLead?_eq]
    rw [decodeFrom_complete _ begins.expected_ne_nil bounded, ← number, Char.ofNat_toNat,
      List.length_cons, Nat.add_right_comm, Nat.add_assoc]

/-- Octets that are read begin with the octets of a character. -/
theorem exists_utf8EncodeChar {octets : Octets} {index : Nat} {characters : List Char}
    (some : octets ≠ []) (decoded : decodeFrom index done none octets = .ok characters) :
    ∃ c rest, octets = String.utf8EncodeChar c ++ rest := by
  obtain ⟨lead, octets, rfl⟩ := List.exists_cons_of_ne_nil some
  rw [decodeFrom] at decoded
  split at decoded
  · next small =>
    have number : (Char.ofNat lead.toNat).toNat = lead.toNat := toNat_ofNat (by
      simp only [Nat.isValidChar]
      omega)
    refine ⟨Char.ofNat lead.toNat, octets, ?_⟩
    rw [utf8EncodeChar_of_ascii (by omega), number, octet_eq rfl, List.singleton_append]
  · split at decoded
    · cases decoded
    · next partly found =>
      have begins := lead_of_ofLead? found
      obtain ⟨tail, rest, rfl, bounded⟩ := exists_completion begins.expected_ne_nil decoded
      refine ⟨Char.ofNat (payload partly.value tail), rest, ?_⟩
      rw [utf8EncodeChar_of_lead begins bounded (toNat_ofNat (isValidChar_payload begins bounded)),
        List.cons_append]

/-! ## Reading texts -/

theorem decodeFrom_flatMap (index : Nat) (characters : List Char) :
    decodeFrom index done none (characters.flatMap String.utf8EncodeChar)
      = .ok (done.reverse ++ characters) := by
  induction characters generalizing index done with
  | nil => simp [decodeFrom]
  | cons c rest ih =>
    rw [List.flatMap_cons, decodeFrom_utf8EncodeChar, ih]
    simp

theorem exists_flatMap {octets : Octets} {index : Nat} {characters : List Char}
    (decoded : decodeFrom index done none octets = .ok characters) :
    ∃ text : List Char, octets = text.flatMap String.utf8EncodeChar := by
  -- Every character takes at least one octet, so the octets that are left get fewer.
  induction count : octets.length using Nat.strong_induction_on generalizing octets index done with
  | _ size ih =>
    by_cases empty : octets = []
    · exact ⟨[], empty⟩
    · obtain ⟨c, rest, rfl⟩ := exists_utf8EncodeChar empty decoded
      rw [decodeFrom_utf8EncodeChar] at decoded
      have shorter : rest.length < size := by
        have filled := List.length_pos_iff.mpr (@String.utf8EncodeChar_ne_nil c)
        rw [← count, List.length_append]
        omega
      obtain ⟨text, rfl⟩ := ih _ shorter decoded rfl
      exact ⟨c :: text, List.flatMap_cons.symm⟩

/-- The octets of a text are read as this text. -/
@[simp] theorem decode_encode (text : String) : decode (encode text) = .ok text := by
  rw [decode, encode_eq, decodeFrom_flatMap]
  simp [Except.map]

/-- **Octets are read as a text exactly when they are the octets of this text.** -/
theorem decode_eq_ok_iff {octets : Octets} {text : String} :
    decode octets = .ok text ↔ octets = encode text := by
  constructor
  · intro decoded
    rw [decode] at decoded
    cases found : decodeFrom 0 [] none octets with
    | error fault =>
      rw [found] at decoded
      cases decoded
    | ok characters =>
      obtain ⟨others, rfl⟩ := exists_flatMap found
      rw [decodeFrom_flatMap] at decoded
      cases decoded
      rw [encode_eq]
      simp
  · rintro rfl
    exact decode_encode text

end MnemonicCode.Utf8
