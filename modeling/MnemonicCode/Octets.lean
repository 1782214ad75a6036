/-!
# Octets

Entropy, digests, seeds and file contents are sequences of octets. A sequence
is read as one number with its first octet the most significant
(`Octets.toNat`), and a number is written back with a fixed count of octets
(`Octets.ofNat`). For people a sequence is shown in lower-case hexadecimal.
-/

set_option autoImplicit false

namespace MnemonicCode

/-- A sequence of octets, in the order in which they are read. -/
abbrev Octets := List UInt8

namespace Octets

/-- The number that the octets spell in base 256, first octet most significant. -/
def toNat (octets : Octets) : Nat :=
  octets.foldl (fun value octet => 256 * value + octet.toNat) 0

/-- The last `count` octets of the base-256 spelling of `value`. -/
def ofNat (count value : Nat) : Octets :=
  (List.range count).map fun place => UInt8.ofNat (value >>> (8 * (count - 1 - place)))

/-- The two lower-case hexadecimal digits of an octet. -/
def hexDigits (octet : UInt8) : List Char :=
  [(octet.toNat / 16).digitChar, (octet.toNat % 16).digitChar]

/-- Two lower-case hexadecimal digits for every octet. -/
def hex (octets : Octets) : String :=
  String.ofList (octets.flatMap hexDigits)

@[simp] theorem length_ofNat (count value : Nat) : (ofNat count value).length = count := by
  simp [ofNat]

end Octets

end MnemonicCode
