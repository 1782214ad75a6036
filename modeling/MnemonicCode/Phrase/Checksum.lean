import MnemonicCode.BitString
import MnemonicCode.Hash.Sha2
import MnemonicCode.Strength

/-!
# The checksum of entropy

The checksum of entropy is made of the first bits of its SHA-256 digest, read as
one number. No more than 32 bits are taken; the strengths stay far below this
(`Strength.checksumBits_le_maxWidth`), so that entropy always has its checksum.
-/

set_option autoImplicit false

namespace MnemonicCode

/-- The number spelled by the first `count` bits of the digest of the entropy. -/
def checksum (entropy : Octets) (count : Nat) : Nat :=
  Bits.toNat ((Bits.ofOctets (sha256 entropy)).take count)

/-- The checksum, when its width is allowed. -/
def checksum? (entropy : Octets) (count : Nat) : Except WidthFault Nat :=
  if count ≤ maxWidth then .ok (checksum entropy count) else .error .checksum

theorem checksum?_eq_ok (entropy : Octets) {count : Nat} (allowed : count ≤ maxWidth) :
    checksum? entropy count = .ok (checksum entropy count) :=
  if_pos allowed

namespace Strength

theorem checksumBits_le_maxWidth (strength : Strength) : strength.checksumBits ≤ maxWidth :=
  Nat.le_trans strength.checksumBits_le (by decide)

/-- The checksum of entropy of this strength. -/
def checksum (strength : Strength) (entropy : Octets) : Nat :=
  granted (checksum? entropy strength.checksumBits)
    (isOk_of_eq_ok (checksum?_eq_ok entropy strength.checksumBits_le_maxWidth))

theorem checksum_eq (strength : Strength) (entropy : Octets) :
    strength.checksum entropy = MnemonicCode.checksum entropy strength.checksumBits :=
  granted_eq (checksum?_eq_ok entropy strength.checksumBits_le_maxWidth) _

end Strength

end MnemonicCode
