import MnemonicCode.BitString
import MnemonicCode.Bits.Value
import Mathlib

/-!
# Groups of bits

A sequence is read as one number, and a part of it is found in that number by
division: what follows the part is divided away, what stands before it is a
multiple of the weight that the remainder drops (`Bits.toNat_slice`). Octets
spell the same number in base 256 as their bits in base two
(`Bits.toNat_ofOctets`).

Cutting a bit string into groups and writing values with a fixed width are
inverse. The groups of a bit string, written one after the other, give the bits
back when no short group is left out (`BitString.flatMap_groups`); and the groups
of values that were written one after the other are these values, reduced to the
width (`BitString.groups_of_toBits_eq`). As digits, the groups are the quotients
of the whole number by the weights of the places (`BitString.groups_eq_digits`).
-/

set_option autoImplicit false

namespace MnemonicCode.Bits

/-! ## Parts of a sequence as parts of its value -/

theorem toNat_split (bits : Bits) (count : Nat) :
    toNat bits
      = toNat (bits.take count) * 2 ^ (bits.length - count) + toNat (bits.drop count) := by
  conv_lhs => rw [← List.take_append_drop count bits, toNat_append, List.length_drop]

theorem toNat_drop_lt (bits : Bits) (count : Nat) :
    toNat (bits.drop count) < 2 ^ (bits.length - count) := by
  rw [← List.length_drop]
  exact toNat_lt _

/-- The first bits spell the quotient by the weight of the last of them. -/
theorem toNat_take (bits : Bits) (count : Nat) :
    toNat (bits.take count) = toNat bits / 2 ^ (bits.length - count) := by
  rw [toNat_split bits count, Nat.mul_comm, Nat.mul_add_div (by positivity),
    Nat.div_eq_of_lt (toNat_drop_lt bits count), Nat.add_zero]

/-- The last bits spell the remainder by the weight of the bit before them. -/
theorem toNat_drop (bits : Bits) (count : Nat) :
    toNat (bits.drop count) = toNat bits % 2 ^ (bits.length - count) := by
  rw [toNat_split bits count, Nat.mul_comm, Nat.mul_add_mod,
    Nat.mod_eq_of_lt (toNat_drop_lt bits count)]

/-- **A part of a sequence spells a quotient of its value, reduced to the width of
the part.** -/
theorem toNat_slice (bits : Bits) {start width : Nat} (inside : start + width ≤ bits.length) :
    toNat ((bits.drop start).take width)
      = toNat bits / 2 ^ (bits.length - (start + width)) % 2 ^ width := by
  have weights : 2 ^ (bits.length - start)
      = 2 ^ (bits.length - (start + width)) * 2 ^ width := by
    rw [← Nat.pow_add]
    congr 1
    omega
  rw [toNat_take, toNat_drop, List.length_drop, Nat.sub_sub, weights,
    Nat.mod_mul_right_div_self]

/-- The bits of octets spell the number that the octets spell. -/
theorem toNat_ofOctets (octets : Octets) : toNat (ofOctets octets) = octets.toNat := by
  have next (value : Nat) (octet : UInt8) :
      (ofNat 8 octet.toNat).foldl (fun value bit => 2 * value + bit.toNat) value
        = 256 * value + octet.toNat := by
    rw [foldl_eq, length_ofNat, toNat_ofNat_octet]
    omega
  rw [toNat, ofOctets, List.foldl_flatMap]
  simp only [next]
  rfl

/-! ## Slices -/

/-- The first `count` pieces of `width` bits each. -/
def slices (width count : Nat) (bits : Bits) : List Bits :=
  (List.range count).map fun index => (bits.drop (index * width)).take width

theorem slices_succ (width count : Nat) (bits : Bits) :
    slices width (count + 1) bits = bits.take width :: slices width count (bits.drop width) := by
  rw [slices, List.range_succ_eq_map, List.map_cons, List.map_map, Nat.zero_mul, List.drop_zero]
  refine congrArg _ (List.map_congr_left fun index _ => ?_)
  simp only [Function.comp_apply, List.drop_drop, Nat.succ_mul, Nat.add_comm]

theorem length_of_mem_slices {width count : Nat} {bits : Bits}
    (inside : count * width ≤ bits.length) {slice : Bits}
    (member : slice ∈ slices width count bits) :
    slice.length = width := by
  obtain ⟨index, small, rfl⟩ := List.mem_map.mp member
  have fits : (index + 1) * width ≤ count * width :=
    Nat.mul_le_mul_right width (List.mem_range.mp small)
  rw [Nat.succ_mul] at fits
  rw [List.length_take, List.length_drop]
  omega

/-- The slices one after the other are the bits that they cover. -/
theorem flatten_slices (width count : Nat) (bits : Bits) :
    (slices width count bits).flatten = bits.take (count * width) := by
  induction count generalizing bits with
  | zero => simp [slices]
  | succ count ih =>
    rw [slices_succ, List.flatten_cons, ih, Nat.succ_mul, Nat.add_comm, List.take_add]

theorem length_flatMap_ofNat (width : Nat) (values : List Nat) :
    (values.flatMap (ofNat width)).length = values.length * width := by
  rw [List.length_flatMap]
  simp only [length_ofNat, List.map_const', List.sum_replicate, smul_eq_mul]

/-- The slices of what was written with a fixed width are what was written for
each value. -/
theorem slices_flatMap_ofNat (width : Nat) (values : List Nat) :
    slices width values.length (values.flatMap (ofNat width)) = values.map (ofNat width) := by
  induction values with
  | nil => rfl
  | cons value rest ih =>
    have length : (ofNat width value).length = width := length_ofNat width value
    rw [List.length_cons, slices_succ, List.flatMap_cons, List.take_left' length,
      List.drop_left' length, ih, List.map_cons]

end MnemonicCode.Bits

namespace MnemonicCode.BitString

open Bits (slices)

/-! ## Groups of a bit string -/

variable {string : BitString} {width : Nat}

theorem groups_eq_slices (positive : 1 ≤ width) (allowed : width ≤ maxWidth) :
    string.groups width
      = (slices width (string.length / width) string.toBits).map Bits.toNat := by
  rw [groups_eq string positive allowed, slices, List.map_map]
  rfl

theorem length_groups (positive : 1 ≤ width) (allowed : width ≤ maxWidth) :
    (string.groups width).length = string.length / width := by
  rw [groups_eq string positive allowed, List.length_map, List.length_range]

theorem length_of_mem_slices_toBits {slice : Bits}
    (member : slice ∈ slices width (string.length / width) string.toBits) :
    slice.length = width := by
  refine Bits.length_of_mem_slices ?_ member
  rw [length_toBits]
  exact Nat.div_mul_le_self _ _

/-- **The groups, written with their width, give the bits back** up to a short
group at the end. -/
theorem flatMap_groups (positive : 1 ≤ width) (allowed : width ≤ maxWidth) :
    (string.groups width).flatMap (Bits.ofNat width)
      = string.toBits.take (string.length / width * width) := by
  rw [groups_eq_slices positive allowed, List.flatMap_map, ← Bits.flatten_slices]
  refine congrArg List.flatten ((List.map_congr_left fun slice member => ?_).trans (List.map_id _))
  have back := Bits.ofNat_toNat slice
  rwa [length_of_mem_slices_toBits member] at back

/-- **The groups of values that were written with a fixed width are these
values**, reduced to the width. -/
theorem groups_of_toBits_eq (positive : 1 ≤ width) (allowed : width ≤ maxWidth)
    {values : List Nat} (written : string.toBits = values.flatMap (Bits.ofNat width)) :
    string.groups width = values.map (· % 2 ^ width) := by
  have count : string.length / width = values.length := by
    rw [← length_toBits, written, Bits.length_flatMap_ofNat]
    exact Nat.mul_div_cancel _ positive
  rw [groups_eq_slices positive allowed, count, written, Bits.slices_flatMap_ofNat, List.map_map]
  exact List.map_congr_left fun value _ => Bits.toNat_ofNat width value

/-- Every group is below the power of two for its width. -/
theorem lt_of_mem_groups (positive : 1 ≤ width) (allowed : width ≤ maxWidth) {value : Nat}
    (member : value ∈ string.groups width) : value < 2 ^ width := by
  rw [groups_eq_slices positive allowed] at member
  obtain ⟨slice, among, rfl⟩ := List.mem_map.mp member
  have small := Bits.toNat_lt slice
  rwa [length_of_mem_slices_toBits among] at small

/-- **The groups are the digits of the number that the bits spell**, the base being
the power of two for their width. -/
theorem groups_eq_digits (positive : 1 ≤ width) (allowed : width ≤ maxWidth) :
    string.groups width = (List.range (string.length / width)).map fun index =>
      Bits.toNat string.toBits / 2 ^ (string.length - (index + 1) * width) % 2 ^ width := by
  rw [groups_eq string positive allowed]
  refine List.map_congr_left fun index small => ?_
  have fits : (index + 1) * width ≤ string.length :=
    (Nat.mul_le_mul_right width (List.mem_range.mp small)).trans (Nat.div_mul_le_self _ _)
  rw [Nat.succ_mul] at fits ⊢
  rw [Bits.toNat_slice string.toBits (by rwa [length_toBits]), length_toBits]

end MnemonicCode.BitString
