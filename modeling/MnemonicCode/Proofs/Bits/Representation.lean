import MnemonicCode.BitString
import Mathlib

/-!
# Bit strings represent bit sequences

A bit string represents a sequence of bits when the sequence accounts for all that
is stored and for every answer: the octets are those of the packed sequence, a bit
is looked up in it, and ranges and leading octets are parts of it (`Represents`).
Exactly one sequence is represented, the bits that are held
(`represents_iff`).

Pushing keeps the relation. The low bits of the pushed value come after the
sequence, and a push whose width is refused changes nothing (`Represents.pushed`).
So whatever is pushed onto nothing or onto octets, in any mixture of widths, the
outcome represents the sequence that was written (`represents_pushedAll`).
-/

set_option autoImplicit false

namespace MnemonicCode

/-- A request to append the low `width` bits of a 32-bit value. -/
structure Push where
  value : UInt32
  width : Nat
  deriving DecidableEq, Repr

/-- The bits that a request adds; a refused request adds none. -/
def Push.bits (push : Push) : Bits :=
  if push.width ≤ maxWidth then Bits.ofNat push.width push.value.toNat else []

theorem Push.bits_of_allowed (push : Push) (allowed : push.width ≤ maxWidth) :
    push.bits = Bits.ofNat push.width push.value.toNat :=
  if_pos allowed

/-- What has an allowed number of bits is below the bound of 32-bit values. -/
theorem lt_two_pow_of_allowed {value width : Nat} (small : value < 2 ^ width)
    (allowed : width ≤ maxWidth) : value < 2 ^ 32 :=
  small.trans_le (Nat.pow_le_pow_right Nat.zero_lt_two allowed)

/-- Nothing is lost of a number with an allowed number of bits when it is made a 32-bit
value, so that it can be pushed. -/
theorem toNat_ofNat_of_allowed {value width : Nat} (small : value < 2 ^ width)
    (allowed : width ≤ maxWidth) : (UInt32.ofNat value).toNat = value := by
  rw [UInt32.toNat_ofNat', Nat.mod_eq_of_lt (lt_two_pow_of_allowed small allowed)]

namespace BitString

/-- The bit string after a request, which leaves it as it was when it is refused. -/
def pushed (string : BitString) (push : Push) : BitString :=
  match string.append? push.value.toNat push.width with
  | .ok longer => longer
  | .error _ => string

/-- The bit string after requests that are made one after the other. -/
def pushedAll (string : BitString) (pushes : List Push) : BitString := pushes.foldl pushed string

/-- The sequence accounts for the storage of the bit string and for all answers. The low bits of
the last octet that hold nothing are zero, and a range whose end is past all 64-bit words is not
read. -/
structure Represents (string : BitString) (bits : Bits) : Prop where
  length_eq : string.length = bits.length
  octets_eq : string.octets.toList = Bits.toOctets bits
  size_eq : string.octets.size = (bits.length + 7) / 8
  last_mod : ∀ last, string.octets.back? = some last →
    last.toNat % 2 ^ (8 * string.octets.size - bits.length) = 0
  bit?_eq : ∀ index, string.bit? index = bits[index]?
  read?_eq_slice : ∀ start width, string.read? start width =
    if width ≤ 32 ∧ start + width ≤ bits.length then
      some (Bits.toNat ((bits.drop start).take width))
    else none
  read?_overflow : bits.length < 2 ^ 64 → ∀ start width : UInt64, start + width < start →
    string.read? start.toNat width.toNat = none
  leadingOctets?_eq : ∀ count, string.leadingOctets? count =
    if count % 8 = 0 ∧ count ≤ bits.length then some (Bits.toOctets (bits.take count)) else none

/-! ## The bits held are represented -/

variable {string : BitString} {bits : Bits}

/-- In the last octet, the places after the bits held are zero. -/
theorem last_mod_eq_zero {last : UInt8} (back : string.octets.back? = some last) :
    last.toNat % 2 ^ (8 * string.octets.size - string.length) = 0 := by
  have found : string.octets[string.octets.size - 1]? = some last := by
    rw [← back, Array.back?_eq_getElem?]
  obtain ⟨inside, here⟩ := Array.getElem?_eq_some_iff.mp found
  have size := string.size_eq
  apply Nat.eq_of_testBit_eq
  intro place
  rw [Nat.testBit_mod_two_pow, Nat.zero_testBit]
  by_cases low : place < 8 * string.octets.size - string.length
  · -- The place is that of a position in the storage after the bits held.
    have free := string.unused (8 * string.octets.size - 1 - place) (by omega)
    have octet : (8 * string.octets.size - 1 - place) / 8 = string.octets.size - 1 := by omega
    have position : 7 - (8 * string.octets.size - 1 - place) % 8 = place := by omega
    rw [storedBit, octet, position] at free
    simp only [Array.getD, inside, dite_true] at free
    rw [← here, decide_eq_true low, Bool.true_and]
    exact free
  · rw [decide_eq_false low, Bool.false_and]

theorem read?_eq_none_of_overflow (short : string.length < 2 ^ 64) {start width : UInt64}
    (wraps : start + width < start) : string.read? start.toNat width.toNat = none := by
  rw [UInt64.lt_iff_toNat_lt, UInt64.toNat_add] at wraps
  have past : ¬ start.toNat + width.toNat ≤ string.length := by
    intro inside
    rw [Nat.mod_eq_of_lt (by omega)] at wraps
    omega
  rw [read?, if_neg fun allowed => past allowed.2]

theorem leadingOctets?_eq_take (string : BitString) (count : Nat) :
    string.leadingOctets? count =
      if count % 8 = 0 ∧ count ≤ string.length then
        some (Bits.toOctets (string.toBits.take count))
      else none := by
  cases given : string.leadingOctets? count with
  | none =>
    unfold leadingOctets? at given
    split at given
    · cases given
    · next refused => rw [if_neg refused]
  | some octets =>
    obtain ⟨held, same⟩ := (leadingOctets?_eq_some_iff string count octets).mp given
    have whole : count % 8 = 0 := by
      have lengths := congrArg List.length same
      rw [Bits.length_ofOctets, List.length_take, length_toBits] at lengths
      omega
    rw [if_pos ⟨whole, held⟩, ← same, toOctets_ofOctets]

/-- **A bit string represents the bits that it holds.** -/
theorem represents_toBits (string : BitString) : string.Represents string.toBits where
  length_eq := string.length_toBits.symm
  octets_eq := (toOctets_toBits string).symm
  size_eq := by rw [length_toBits, string.size_eq]
  last_mod last back := by
    rw [length_toBits]
    exact last_mod_eq_zero back
  bit?_eq := string.bit?_eq
  read?_eq_slice start width := by
    rw [read?_eq, length_toBits]
    rfl
  read?_overflow short start width wraps := by
    rw [length_toBits] at short
    exact read?_eq_none_of_overflow short wraps
  leadingOctets?_eq count := by
    rw [leadingOctets?_eq_take, length_toBits]

/-- No other sequence is represented. -/
theorem represents_iff : string.Represents bits ↔ string.toBits = bits := by
  constructor
  · intro represents
    apply List.ext_getElem?
    intro index
    rw [← bit?_eq, represents.bit?_eq]
  · rintro rfl
    exact represents_toBits string

/-! ## Pushing -/

theorem append?_eq_error (string : BitString) (value : Nat) {width : Nat}
    (wide : maxWidth < width) : string.append? value width = .error .push := by
  rw [append?, if_neg (Nat.not_le.mpr wide)]

theorem toBits_pushed (string : BitString) (push : Push) :
    (string.pushed push).toBits = string.toBits ++ push.bits := by
  unfold pushed Push.bits append?
  by_cases allowed : push.width ≤ maxWidth
  · rw [if_pos allowed, if_pos allowed, toBits_append]
  · rw [if_neg allowed, if_neg allowed, List.append_nil]

/-- **One push** adds its bits after the sequence. -/
theorem Represents.pushed (represents : string.Represents bits) (push : Push) :
    (string.pushed push).Represents (bits ++ push.bits) := by
  rw [represents_iff] at represents ⊢
  rw [toBits_pushed, represents]

/-- Any number of pushes add their bits one after the other. -/
theorem Represents.pushedAll (represents : string.Represents bits) (pushes : List Push) :
    (string.pushedAll pushes).Represents (bits ++ pushes.flatMap Push.bits) := by
  induction pushes generalizing string bits with
  | nil =>
    rw [List.flatMap_nil, List.append_nil]
    exact represents
  | cons push rest ih =>
    have later := ih (represents.pushed push)
    rw [List.append_assoc] at later
    exact later

/-- **Pushes onto nothing or onto octets give a bit string that represents what was
written**: the bits of the octets, then the low bits of every value whose width is
allowed. A push of more than 32 bits fails and leaves the bit string as it was. -/
theorem represents_pushedAll (pushes : List Push) :
    (∀ string : BitString, ∀ push : Push, 32 < push.width →
      string.append? push.value.toNat push.width = .error .push ∧ string.pushed push = string) ∧
    (empty.pushedAll pushes).Represents (pushes.flatMap Push.bits) ∧
    ∀ octets : Octets,
      ((ofOctets octets).pushedAll pushes).Represents
        (Bits.ofOctets octets ++ pushes.flatMap Push.bits) := by
  refine ⟨?_, ?_, ?_⟩
  · intro string push wide
    have refused := append?_eq_error string push.value.toNat wide
    refine ⟨refused, ?_⟩
    rw [BitString.pushed, refused]
  · have start : empty.Represents [] := represents_iff.mpr toBits_empty
    exact start.pushedAll pushes
  · intro octets
    have start : (ofOctets octets).Represents (Bits.ofOctets octets) :=
      represents_iff.mpr (toBits_ofOctets octets)
    exact start.pushedAll pushes

end BitString

end MnemonicCode
