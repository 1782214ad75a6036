import MnemonicCode.Proofs.Bits.Groups
import MnemonicCode.Proofs.Bits.Representation
import Mathlib

/-!
# Cutting into groups and pushing them again

A bit string is cut into groups, and the groups are pushed one after the other with the
width that they were cut with (`Push.each`). What comes out holds the bits that were cut,
without a short group at the end (`represents_pushedAll_groupValues`). In the other
direction, values that are pushed with one width come back as groups, reduced to the width
(`groups_pushedAll_each`).

No group gets lost on the way, although a group that cannot be read would be left out: each
group ends inside the bit string (`group_end_le`), so its offset is a number of 64 bits when
the length is (`toNat_offset`) and it is read (`read?_group`). Groups of no bits are zeros,
one for each bit that is held, and groups of more than 32 bits are never read
(`groups_eq_if`).
-/

set_option autoImplicit false

namespace MnemonicCode

/-- Requests to append the values one after the other, all with the same width. -/
def Push.each (width : Nat) (values : List UInt32) : List Push :=
  values.map fun value => ⟨value, width⟩

theorem Push.flatMap_bits_each {width : Nat} (allowed : width ≤ maxWidth)
    (values : List UInt32) :
    (Push.each width values).flatMap Push.bits =
      (values.map UInt32.toNat).flatMap (Bits.ofNat width) := by
  rw [Push.each, List.flatMap_map, List.flatMap_map]
  exact List.flatMap_congr fun value _ => Push.bits_of_allowed ⟨value, width⟩ allowed

namespace BitString

variable {string : BitString} {width index : Nat}

/-! ## Offsets of groups -/

/-- Each group ends inside the bit string. -/
theorem group_end_le (inside : index < string.length / max width 1) :
    index * width + width ≤ string.length := by
  rw [← Nat.succ_mul]
  calc (index + 1) * width
      ≤ (index + 1) * max width 1 := Nat.mul_le_mul_left _ (Nat.le_max_left width 1)
    _ ≤ string.length / max width 1 * max width 1 := Nat.mul_le_mul_right _ inside
    _ ≤ string.length := Nat.div_mul_le_self _ _

/-- Both ends of a group are computed in 64 bits as they are. -/
theorem toNat_offset (short : string.length < 2 ^ 64) {index width : UInt64}
    (inside : index.toNat < string.length / max width.toNat 1) :
    (index * width).toNat = index.toNat * width.toNat ∧
      (index * width + width).toNat = index.toNat * width.toNat + width.toNat := by
  have last := group_end_le inside
  have start : (index * width).toNat = index.toNat * width.toNat := by
    rw [UInt64.toNat_mul]
    exact Nat.mod_eq_of_lt (by omega)
  refine ⟨start, ?_⟩
  rw [UInt64.toNat_add, start]
  exact Nat.mod_eq_of_lt (by omega)

/-- Each group of an allowed width is read. -/
theorem read?_group (positive : 1 ≤ width) (allowed : width ≤ maxWidth)
    (inside : index < string.length / width) :
    string.read? (index * width) width = (string.groups width)[index]? ∧
      (string.read? (index * width) width).isSome := by
  have held : index * width + width ≤ string.length := by
    apply group_end_le
    rwa [Nat.max_eq_left positive]
  rw [read?_eq, if_pos ⟨allowed, held⟩, groups_eq string positive allowed, List.getElem?_map,
    List.getElem?_range inside]
  exact ⟨rfl, rfl⟩

/-! ## Groups of every width -/

theorem groups_zero (string : BitString) :
    string.groups 0 = List.replicate string.length 0 := by
  have nothing (index : Nat) : string.read? (index * 0) 0 = some 0 := by
    rw [Nat.mul_zero, read?, if_pos ⟨Nat.zero_le _, Nat.zero_le _⟩]
    rfl
  rw [groups, Nat.max_eq_right (Nat.zero_le 1), Nat.div_one]
  simp only [nothing]
  rw [List.filterMap_eq_map', List.map_const', List.length_range]

theorem groups_of_wide (string : BitString) (wide : maxWidth < width) :
    string.groups width = [] := by
  refine List.filterMap_eq_nil_iff.mpr fun index _ => ?_
  rw [read?, if_neg fun allowed => Nat.not_le.mpr wide allowed.1]

/-- **The groups of every width.** -/
theorem groups_eq_if (string : BitString) (width : Nat) :
    string.groups width =
      if width = 0 then List.replicate string.length 0
      else if width ≤ maxWidth then
        (List.range (string.length / width)).map fun index =>
          Bits.toNat ((string.toBits.drop (index * width)).take width)
      else [] := by
  by_cases none : width = 0
  · rw [if_pos none, none, groups_zero]
  · rw [if_neg none]
    by_cases allowed : width ≤ maxWidth
    · rw [if_pos allowed]
      exact groups_eq string (Nat.one_le_iff_ne_zero.mpr none) allowed
    · rw [if_neg allowed]
      exact groups_of_wide string (Nat.not_le.mp allowed)

/-! ## Pushing groups -/

/-- The groups as values of 32 bits. -/
def groupValues (string : BitString) (width : Nat) : List UInt32 :=
  (string.groups width).map UInt32.ofNat

/-- Groups have 32 bits at most, so that nothing of them is lost. -/
theorem map_toNat_groupValues (positive : 1 ≤ width) (allowed : width ≤ maxWidth) :
    (string.groupValues width).map UInt32.toNat = string.groups width := by
  rw [groupValues, List.map_map]
  refine (List.map_congr_left fun value member => ?_).trans (List.map_id _)
  exact toNat_ofNat_of_allowed (lt_of_mem_groups positive allowed member) allowed

/-- Values that are pushed with an allowed width are written one after the other. -/
theorem represents_pushedAll_each (allowed : width ≤ maxWidth) (values : List UInt32) :
    (empty.pushedAll (Push.each width values)).Represents
      ((values.map UInt32.toNat).flatMap (Bits.ofNat width)) := by
  have start : empty.Represents [] := represents_iff.mpr toBits_empty
  have written := start.pushedAll (Push.each width values)
  rwa [List.nil_append, Push.flatMap_bits_each allowed] at written

/-- **Pushing the groups rebuilds what was cut**, up to a short group at the end. -/
theorem represents_pushedAll_groupValues (positive : 1 ≤ width) (allowed : width ≤ maxWidth) :
    (empty.pushedAll (Push.each width (string.groupValues width))).Represents
      (string.toBits.take (width * (string.length / width))) := by
  have written := represents_pushedAll_each allowed (string.groupValues width)
  rwa [map_toNat_groupValues positive allowed, flatMap_groups positive allowed,
    Nat.mul_comm] at written

/-- **Pushed values come back as groups**, reduced to the width. -/
theorem groups_pushedAll_each (positive : 1 ≤ width) (allowed : width ≤ maxWidth)
    (values : List UInt32) :
    (empty.pushedAll (Push.each width values)).groups width =
      values.map fun value => value.toNat % 2 ^ width := by
  have written := represents_iff.mp (represents_pushedAll_each allowed values)
  rw [groups_of_toBits_eq positive allowed written, List.map_map]
  rfl

/-- **Cutting into groups and pushing are inverse.** A width from 1 to 32 cuts a bit string
into as many groups as fit; each is the number that its bits spell, with no read that fails,
and the offsets stay within 64 bits when the length does. The groups, pushed with their
width, represent the bits that the groups cover; and values that are pushed with one width
are the groups of what they make, reduced to the width. Groups of no bits are zeros, as many
as there are bits, and of more than 32 bits there are none. -/
theorem groups_pushed (string : BitString) :
    (∀ width, string.groups width =
      if width = 0 then List.replicate string.length 0
      else if width ≤ 32 then
        (List.range (string.length / width)).map fun index =>
          Bits.toNat ((string.toBits.drop (index * width)).take width)
      else []) ∧
    (string.length < 2 ^ 64 → ∀ index width : UInt64,
      index.toNat < string.length / max width.toNat 1 →
        (index * width).toNat = index.toNat * width.toNat ∧
          (index * width + width).toNat = index.toNat * width.toNat + width.toNat) ∧
    ∀ width, 1 ≤ width → width ≤ 32 →
      (string.groups width).length = string.length / width ∧
      (∀ index < string.length / width,
        string.read? (index * width) width = (string.groups width)[index]? ∧
          (string.read? (index * width) width).isSome) ∧
      (string.groupValues width).map UInt32.toNat = string.groups width ∧
      (empty.pushedAll (Push.each width (string.groupValues width))).Represents
        (string.toBits.take (width * (string.length / width))) ∧
      ∀ values : List UInt32,
        (empty.pushedAll (Push.each width values)).groups width =
          values.map fun value => value.toNat % 2 ^ width := by
  refine ⟨groups_eq_if string, fun short index width => toNat_offset short, ?_⟩
  intro width positive allowed
  exact ⟨length_groups positive allowed, fun index => read?_group positive allowed,
    map_toNat_groupValues positive allowed, represents_pushedAll_groupValues positive allowed,
    groups_pushedAll_each positive allowed⟩

theorem groups_pushed_shortTail :
    1 ≤ 11 ∧ 11 ≤ 32 ∧
      (ofOctets [0xff, 0x9f, 0x80]).groups 11 = [2044, 2016] ∧
      (empty.pushedAll (Push.each 11 ((ofOctets [0xff, 0x9f, 0x80]).groupValues 11))).Represents
        ((ofOctets [0xff, 0x9f, 0x80]).toBits.take 22) ∧
      (empty.pushedAll (Push.each 11 [0xffffffff, 0, 4097])).groups 11 = [2047, 0, 1] := by
  obtain ⟨-, -, cut⟩ := groups_pushed (ofOctets [0xff, 0x9f, 0x80])
  obtain ⟨-, -, -, rebuilt, back⟩ := cut 11 (by decide) (by decide)
  exact ⟨by decide, by decide, by decide, rebuilt, back [0xffffffff, 0, 4097]⟩

end BitString

end MnemonicCode
