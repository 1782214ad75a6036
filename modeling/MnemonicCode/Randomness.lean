import MnemonicCode.Failure

/-!
# Sources of randomness

A source fills a buffer or fails. Sources made here repeat a pattern, which is
of use where the outcome must be known beforehand and for octets that were drawn
earlier, or always fail.
-/

set_option autoImplicit false

namespace MnemonicCode

/-- A source of randomness. It replaces the whole content of a buffer. -/
structure Randomness where
  fill : (count : Nat) → Vector UInt8 count → Except Failure (Vector UInt8 count)

namespace Randomness

/-- The first `count` octets of the pattern repeated for ever, when `rest` is
left of the current round; an empty pattern gives zeros. -/
def cycle (pattern : Octets) : Octets → Nat → Octets
  | _, 0 => []
  | octet :: rest, count + 1 => octet :: cycle pattern rest count
  | [], count + 1 =>
    match pattern with
    | [] => 0 :: cycle pattern [] count
    | octet :: rest => octet :: cycle pattern rest count

@[simp] theorem length_cycle (pattern rest : Octets) (count : Nat) :
    (cycle pattern rest count).length = count := by
  induction count generalizing rest with
  | zero => simp [cycle]
  | succ count ih =>
    cases rest with
    | cons octet rest => simp [cycle, ih]
    | nil => cases pattern <;> simp [cycle, ih]

/-- The source that repeats a pattern. -/
def repeating (pattern : Octets) : Randomness where
  fill count _ := .ok ⟨(cycle pattern pattern count).toArray, by simp⟩

/-- The source that always fails for the given reason. -/
def failing (reason : String) : Randomness where
  fill _ _ := .error (.randomness reason)

end Randomness

end MnemonicCode
