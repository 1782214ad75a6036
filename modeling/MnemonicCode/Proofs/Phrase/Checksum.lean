import MnemonicCode.Proofs.Bits.Representation
import MnemonicCode.Proofs.Phrase.Coding
import Mathlib

/-!
# The checksum as the beginning of the digest

Numbers are taken from packed bits in a register of 32 bits: each bit is shifted in at the
low end (`shiftedIn`). For up to 32 bits nothing is shifted out at the other end, and the
register holds the number that the bits spell (`toNat_register`). A bit string is read in
this way (`BitString.read?_eq_register`), and so is the digest of which the checksum is the
beginning (`toNat_register_sha256`).

Hence the checksum of octets is what a bit string with their digest reads at its start
(`read?_ofOctets_sha256`). It has no more bits than it is asked for, so it can be pushed
onto any bit string and is read from there again, whatever is pushed after it
(`BitString.read?_pushed`). Fewer bits of it are its first bits (`checksum_eq_shiftRight`).
`checksum_beginning` puts this together. Of the digest nothing is used but its length.
-/

set_option autoImplicit false

namespace MnemonicCode

/-! ## A register of 32 bits -/

/-- The register after a bit was shifted in at its low end. -/
def shiftedIn (register : UInt32) (bit : Bool) : UInt32 := register <<< 1 ||| bit.toUInt32

/-- The register after `width` bits of the octets, from `start` on, were shifted in. -/
def register (octets : Array UInt8) (start width : Nat) : UInt32 :=
  (List.range width).foldl
    (fun value offset => shiftedIn value (storedBit octets (start + offset))) 0

/-- A bit shifted in doubles the register and is added, within 32 bits. -/
theorem toNat_shiftedIn (value : UInt32) (bit : Bool) :
    (shiftedIn value bit).toNat = (2 * value.toNat + bit.toNat) % 2 ^ 32 := by
  have low : bit.toUInt32.toNat = bit.toNat := by cases bit <;> rfl
  have small : bit.toNat < 2 ^ 1 := bit.toNat_lt
  -- the highest bit is the one that leaves the register
  have doubled : value.toNat <<< 1 % 2 ^ 32 = (value.toNat % 2 ^ 31) <<< 1 := by
    rw [Nat.shiftLeft_eq, Nat.shiftLeft_eq]
    omega
  calc (shiftedIn value bit).toNat
      = value.toNat <<< 1 % 2 ^ 32 ||| bit.toNat := by
        rw [shiftedIn, UInt32.toNat_or, UInt32.toNat_shiftLeft, low]
        rfl
    _ = (value.toNat % 2 ^ 31) <<< 1 + bit.toNat := by
        rw [doubled, Nat.shiftLeft_add_eq_or_of_lt small]
    _ = (2 * value.toNat + bit.toNat) % 2 ^ 32 := by
        rw [Nat.shiftLeft_eq]
        omega

theorem toNat_foldl_shiftedIn (bits : Bits) (value : UInt32) :
    (bits.foldl shiftedIn value).toNat =
      (value.toNat * 2 ^ bits.length + Bits.toNat bits) % 2 ^ 32 := by
  induction bits generalizing value with
  | nil =>
    rw [List.foldl_nil, List.length_nil, Nat.pow_zero, Nat.mul_one]
    exact (Nat.mod_eq_of_lt value.toNat_lt).symm
  | cons bit rest ih =>
    have weight : (2 * value.toNat + bit.toNat) * 2 ^ rest.length + Bits.toNat rest =
        value.toNat * 2 ^ (rest.length + 1) + (bit.toNat * 2 ^ rest.length + Bits.toNat rest) := by
      ring
    rw [List.foldl_cons, ih, toNat_shiftedIn, Bits.toNat_cons, List.length_cons, ← weight]
    exact ((Nat.mod_modEq _ _).mul_right _).add_right _

/-- **The register holds the number that the bits spell**, when these are 32 at most. -/
theorem toNat_register (octets : Array UInt8) (start : Nat) {width : Nat}
    (allowed : width ≤ maxWidth) :
    (register octets start width).toNat =
      Bits.toNat ((List.range width).map fun offset => storedBit octets (start + offset)) := by
  have held := toNat_foldl_shiftedIn
    ((List.range width).map fun offset => storedBit octets (start + offset)) 0
  have small := Bits.toNat_lt
    ((List.range width).map fun offset => storedBit octets (start + offset))
  rw [List.length_map, List.length_range] at small
  have fits : Bits.toNat ((List.range width).map fun offset => storedBit octets (start + offset))
      < 2 ^ 32 := lt_two_pow_of_allowed small allowed
  rw [List.foldl_map, UInt32.toNat_zero, Nat.zero_mul, Nat.zero_add,
    Nat.mod_eq_of_lt fits] at held
  exact held

namespace BitString

/-- A bit string is read by shifting its bits into the register. -/
theorem read?_eq_register (string : BitString) (start width : Nat) :
    string.read? start width =
      if width ≤ maxWidth ∧ start + width ≤ string.length then
        some (register string.octets start width).toNat
      else none := by
  rw [read?]
  split
  · next allowed => rw [toNat_register string.octets start allowed.1]
  · rfl

/-! ## Reading what was pushed -/

/-- **A pushed value is read at the place where it was pushed**, whatever is pushed after
it. -/
theorem read?_pushed (string : BitString) (push : Push) (allowed : push.width ≤ maxWidth)
    (later : List Push) :
    ((string.pushed push).pushedAll later).read? string.length push.width =
      some (push.value.toNat % 2 ^ push.width) := by
  have held := represents_iff.mp ((represents_toBits (string.pushed push)).pushedAll later)
  rw [toBits_pushed, push.bits_of_allowed allowed, List.append_assoc] at held
  have inside : string.length + push.width ≤ ((string.pushed push).pushedAll later).length := by
    rw [← length_toBits (pushedAll _ _), held, List.length_append, List.length_append,
      length_toBits, Bits.length_ofNat]
    omega
  rw [read?_eq, if_pos ⟨allowed, inside⟩, held, List.drop_left' (length_toBits string),
    List.take_left' (Bits.length_ofNat _ _), Bits.toNat_ofNat]

end BitString

/-! ## The beginning of the digest -/

section Digest

variable (octets : Octets) {count : Nat}

theorem checksum?_eq_if (count : Nat) :
    checksum? octets count =
      if count ≤ maxWidth then .ok ((sha256 octets).toNat / 2 ^ (256 - count))
      else .error .checksum := by
  rw [checksum?, checksum_eq_div]

/-- A bit string with the digest holds all bits of a checksum. -/
theorem le_length_ofOctets_sha256 (allowed : count ≤ maxWidth) :
    0 + count ≤ (BitString.ofOctets (sha256 octets)).length := by
  have length : (BitString.ofOctets (sha256 octets)).length = 256 :=
    congrArg (8 * ·) (length_sha256 octets)
  rw [length, Nat.zero_add]
  exact allowed.trans (by decide)

/-- A bit string with the digest reads the checksum at its start. -/
theorem read?_ofOctets_sha256 (allowed : count ≤ maxWidth) :
    (BitString.ofOctets (sha256 octets)).read? 0 count = some (checksum octets count) := by
  rw [BitString.read?_eq, if_pos ⟨allowed, le_length_ofOctets_sha256 octets allowed⟩,
    BitString.toBits_ofOctets, List.drop_zero]
  rfl

/-- The first bits of the digest, shifted into the register, are the checksum. -/
theorem toNat_register_sha256 (allowed : count ≤ maxWidth) :
    (register (sha256 octets).toArray 0 count).toNat = checksum octets count := by
  have read := read?_ofOctets_sha256 octets allowed
  rw [BitString.read?_eq_register,
    if_pos ⟨allowed, le_length_ofOctets_sha256 octets allowed⟩] at read
  exact Option.some.inj read

theorem checksum_lt_of_allowed (allowed : count ≤ maxWidth) :
    checksum octets count < 2 ^ count :=
  checksum_lt octets (allowed.trans (by decide))

/-- A checksum that was pushed with its width is read where it was pushed. -/
theorem read?_pushed_checksum (allowed : count ≤ maxWidth) (string : BitString)
    (later : List Push) :
    ((string.pushed ⟨UInt32.ofNat (checksum octets count), count⟩).pushedAll later).read?
      string.length count = some (checksum octets count) := by
  have small := checksum_lt_of_allowed octets allowed
  have read := string.read?_pushed ⟨UInt32.ofNat (checksum octets count), count⟩ allowed later
  rwa [toNat_ofNat_of_allowed small allowed, Nat.mod_eq_of_lt small] at read

/-- Fewer bits of the checksum are its first bits. -/
theorem checksum_eq_shiftRight {fewer : Nat} (le : fewer ≤ count) (allowed : count ≤ maxWidth) :
    checksum octets fewer = checksum octets count >>> (count - fewer) := by
  have within : count ≤ 256 := allowed.trans (by decide)
  have weights : 2 ^ (256 - fewer) = 2 ^ (256 - count) * 2 ^ (count - fewer) := by
    rw [← Nat.pow_add]
    congr 1
    omega
  rw [checksum_eq_div, checksum_eq_div, Nat.shiftRight_eq_div_pow, Nat.div_div_eq_div_mul,
    weights]

/-- **The checksum is the beginning of the digest, and is read as bit strings are.** For up
to 32 bits there is a checksum: the quotient of the digest by the weight of its last bit,
which is what the bits of the digest leave in the register and what a bit string with the
digest reads at its start. It is below the power of two for its width; pushed with this
width onto any bit string, it is read from there again, whatever is pushed later. Of two
checksums of the same octets the shorter is the longer one shifted to the right. -/
theorem checksum_beginning :
    (∀ count, checksum? octets count =
      if count ≤ 32 then .ok ((sha256 octets).toNat / 2 ^ (256 - count))
      else .error .checksum) ∧
    (∀ string : BitString, ∀ start width, string.read? start width =
      if width ≤ 32 ∧ start + width ≤ string.length then
        some (register string.octets start width).toNat
      else none) ∧
    (∀ count ≤ 32,
      checksum octets count = (sha256 octets).toNat / 2 ^ (256 - count) ∧
      checksum octets count = (register (sha256 octets).toArray 0 count).toNat ∧
      (BitString.ofOctets (sha256 octets)).read? 0 count = some (checksum octets count) ∧
      checksum octets count < 2 ^ count ∧
      ∀ string : BitString, ∀ later : List Push,
        ((string.pushed ⟨UInt32.ofNat (checksum octets count), count⟩).pushedAll later).read?
          string.length count = some (checksum octets count)) ∧
    ∀ fewer count, fewer ≤ count → count ≤ 32 →
      checksum octets fewer = checksum octets count >>> (count - fewer) := by
  refine ⟨checksum?_eq_if octets, BitString.read?_eq_register, ?_,
    fun _ _ le allowed => checksum_eq_shiftRight octets le allowed⟩
  intro count allowed
  exact ⟨checksum_eq_div octets count, (toNat_register_sha256 octets allowed).symm,
    read?_ofOctets_sha256 octets allowed, checksum_lt_of_allowed octets allowed,
    read?_pushed_checksum octets allowed⟩

end Digest

theorem checksum_beginning_twelve :
    4 ≤ 12 ∧ 12 ≤ 32 ∧
      checksum? (List.replicate 32 0x42) 12 = .ok 0x425 ∧
      (BitString.ofOctets (sha256 (List.replicate 32 0x42))).read? 0 12 =
        some (checksum (List.replicate 32 0x42) 12) ∧
      checksum (List.replicate 32 0x42) 4 = checksum (List.replicate 32 0x42) 12 >>> (12 - 4) := by
  have value : checksum? (List.replicate 32 0x42) 12 = .ok 0x425 := by decide +kernel
  obtain ⟨-, -, read, shifted⟩ := checksum_beginning (List.replicate 32 0x42)
  exact ⟨by decide, by decide, value, (read 12 (by decide)).2.2.1,
    shifted 4 12 (by decide) (by decide)⟩

end MnemonicCode
