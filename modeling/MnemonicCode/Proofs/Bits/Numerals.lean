import MnemonicCode.Proofs.Bits.Groups
import Mathlib

/-!
# Bits as numerals

The bits of a sequence can be taken together in groups of one width, and each group
is then a digit: what is written for values of the width spells the number that has
these values as digits (`toNat_flatMap_ofNat`). In groups of eight the digits are
octets, and the octets that are written for a number have the bits that are written
for it (`ofOctets_ofNat`).
-/

set_option autoImplicit false

namespace MnemonicCode.Bits

/-- **Values written with a fixed width are the digits of the number that is
spelled**, the first value the most significant. -/
theorem toNat_flatMap_ofNat {width : Nat} {values : List Nat}
    (small : ∀ value ∈ values, value < 2 ^ width) :
    toNat (values.flatMap (ofNat width)) = Nat.ofDigits (2 ^ width) values.reverse := by
  induction values with
  | nil => rfl
  | cons value rest ih =>
    have first := small value List.mem_cons_self
    have later := ih fun other member => small other (List.mem_cons_of_mem _ member)
    have weight : 2 ^ (rest.flatMap (ofNat width)).length = (2 ^ width) ^ rest.length := by
      rw [length_flatMap_ofNat, Nat.mul_comm, Nat.pow_mul]
    rw [List.flatMap_cons, toNat_append, toNat_ofNat, Nat.mod_eq_of_lt first, later, weight,
      List.reverse_cons, Nat.ofDigits_append, Nat.ofDigits_singleton, List.length_reverse]
    ring

/-- The octets of a number have the bits of the number. -/
theorem ofOctets_ofNat (count value : Nat) :
    ofOctets (Octets.ofNat count value) = ofNat (8 * count) value := by
  apply List.ext_getElem?
  intro index
  rw [getElem?_ofOctets, Octets.ofNat, ofNat, List.getElem?_map, List.getElem?_map]
  by_cases inside : index < 8 * count
  · have octet : index / 8 < count := by omega
    rw [List.getElem?_range octet, List.getElem?_range inside]
    simp only [Option.map_some, UInt8.toNat_ofNat']
    have place : 8 * (count - 1 - index / 8) + (7 - index % 8) = 8 * count - 1 - index := by omega
    rw [Nat.testBit_mod_two_pow, Nat.testBit_shiftRight, place]
    have low : 7 - index % 8 < 8 := by omega
    rw [decide_eq_true low, Bool.true_and]
  · have past : ¬ index / 8 < count := by omega
    simp [inside, past]

/-- A sequence with the bits of whole octets is that of the octets of its value. -/
theorem ofOctets_ofNat_toNat {bits : Bits} {count : Nat} (length : bits.length = 8 * count) :
    ofOctets (Octets.ofNat count (toNat bits)) = bits := by
  rw [ofOctets_ofNat, ← length, ofNat_toNat]

end MnemonicCode.Bits
