import MnemonicCode.Bits
import Mathlib

/-!
# Values of bit sequences

A value and a width determine a bit sequence: what is written for a number spells
its remainder by the power of two for the width (`toNat_ofNat`), and every
sequence is what is written for its value (`ofNat_toNat`). Values of neighbouring
sequences combine by place (`toNat_append`).
-/

set_option autoImplicit false

namespace MnemonicCode.Bits

/-- Reading on from a value shifts it by the bits that are read. -/
theorem foldl_eq (bits : Bits) (start : Nat) :
    bits.foldl (fun value bit => 2 * value + bit.toNat) start
      = start * 2 ^ bits.length + toNat bits := by
  induction bits generalizing start with
  | nil => simp [toNat]
  | cons bit rest ih =>
    rw [toNat, List.foldl_cons, List.foldl_cons, ih, ih (2 * 0 + bit.toNat), List.length_cons,
      Nat.pow_succ]
    simp only [Nat.mul_zero, Nat.zero_add, Nat.add_mul]
    rw [Nat.mul_comm 2 start, Nat.mul_assoc, Nat.mul_comm 2, Nat.add_assoc]

@[simp] theorem toNat_cons (bit : Bool) (rest : Bits) :
    toNat (bit :: rest) = bit.toNat * 2 ^ rest.length + toNat rest := by
  rw [toNat, List.foldl_cons, foldl_eq]
  simp

theorem toNat_append (left right : Bits) :
    toNat (left ++ right) = toNat left * 2 ^ right.length + toNat right := by
  rw [toNat, List.foldl_append, foldl_eq]
  rfl

theorem toNat_lt (bits : Bits) : toNat bits < 2 ^ bits.length := by
  induction bits with
  | nil => simp [toNat]
  | cons bit rest ih =>
    rw [toNat_cons, List.length_cons, Nat.pow_succ]
    cases bit <;> simp <;> omega

/-- Only the low bits of a number are written. -/
@[simp] theorem toNat_ofNat (width value : Nat) :
    toNat (ofNat width value) = value % 2 ^ width := by
  induction width with
  | zero => simp [ofNat, toNat, Nat.mod_one]
  | succ width ih =>
    rw [ofNat_succ, toNat_cons, length_ofNat, ih, Nat.mod_pow_succ, Nat.toNat_testBit,
      Nat.mul_comm, Nat.add_comm]

theorem ofNat_mod (width value : Nat) : ofNat width (value % 2 ^ width) = ofNat width value := by
  refine List.map_congr_left fun place inside => ?_
  have := List.mem_range.mp inside
  rw [Nat.testBit_mod_two_pow]
  simp
  omega

/-- A sequence is what is written for its value. -/
@[simp] theorem ofNat_toNat (bits : Bits) : ofNat bits.length (toNat bits) = bits := by
  induction bits with
  | nil => rfl
  | cons bit rest ih =>
    have small := toNat_lt rest
    rw [List.length_cons, ofNat_succ, ← ofNat_mod, toNat_cons,
      Nat.mul_comm, Nat.mul_add_mod, Nat.mod_eq_of_lt small, ih]
    congr 1
    rw [Nat.testBit_two_pow_mul_add _ small]
    cases bit <;> simp

end MnemonicCode.Bits
