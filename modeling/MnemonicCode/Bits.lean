import MnemonicCode.Octets

/-!
# Bit sequences

A bit sequence is a list of booleans with the most significant bit first. This
is the view through which packed storage, checksums and word indices are
described: a sequence has a value (`Bits.toNat`), a number has a sequence of any
width (`Bits.ofNat`), and octets are cut into bits and packed again
(`Bits.ofOctets`, `Bits.toOctets`).

The bits of octets are found by position (`getElem?_ofOctets`), and octets are
spelled by their bits (`toNat_ofNat_octet`).
-/

set_option autoImplicit false

namespace MnemonicCode

/-- A sequence of bits, most significant first. -/
abbrev Bits := List Bool

namespace Bits

/-- The number that the bits spell in base two. -/
def toNat (bits : Bits) : Nat :=
  bits.foldl (fun value bit => 2 * value + bit.toNat) 0

/-- The low `width` bits of `value`. -/
def ofNat (width value : Nat) : Bits :=
  (List.range width).map fun place => value.testBit (width - 1 - place)

/-- The eight bits of every octet, one octet after the other. -/
def ofOctets (octets : Octets) : Bits :=
  octets.flatMap fun octet => ofNat 8 octet.toNat

/-- Bits packed eight to an octet; zeros fill up the last octet. -/
def toOctets (bits : Bits) : Octets :=
  (List.range ((bits.length + 7) / 8)).map fun index =>
    UInt8.ofNat (toNat ((List.range 8).map fun place => bits.getD (8 * index + place) false))

@[simp] theorem length_ofNat (width value : Nat) : (ofNat width value).length = width := by
  simp [ofNat]

/-- The high bit stands before the others. -/
theorem ofNat_succ (width value : Nat) :
    ofNat (width + 1) value = value.testBit width :: ofNat width value := by
  simp only [ofNat, List.range_succ_eq_map, List.map_cons, List.map_map]
  refine List.cons_eq_cons.mpr ⟨by simp, List.map_congr_left fun place _ => ?_⟩
  simp only [Function.comp_apply]
  congr 1
  omega

@[simp] theorem toNat_ofNat_octet (octet : UInt8) :
    toNat (ofNat 8 octet.toNat) = octet.toNat := by
  have all : ∀ value : Fin 256, toNat (ofNat 8 value.val) = value.val := by decide +kernel
  exact all ⟨octet.toNat, octet.toNat_lt⟩

@[simp] theorem length_ofOctets (octets : Octets) :
    (ofOctets octets).length = 8 * octets.length := by
  simp [ofOctets, List.length_flatMap, List.map_const']
  omega

/-- The bit of an octet at a place, counted from the high end. -/
theorem getElem?_ofOctets (octets : Octets) (index : Nat) :
    (ofOctets octets)[index]? =
      octets[index / 8]?.map fun octet => octet.toNat.testBit (7 - index % 8) := by
  induction octets generalizing index with
  | nil => simp [ofOctets]
  | cons octet rest ih =>
    have split : ofOctets (octet :: rest) = ofNat 8 octet.toNat ++ ofOctets rest := by
      simp [ofOctets]
    rw [split]
    by_cases inside : index < 8
    · rw [List.getElem?_append_left (by simpa using inside)]
      have first : index / 8 = 0 := by omega
      have place : index % 8 = index := by omega
      simp [first, place, ofNat, inside]
    · rw [List.getElem?_append_right (by simp; omega), length_ofNat, ih]
      have next : index / 8 = (index - 8) / 8 + 1 := by omega
      have place : (index - 8) % 8 = index % 8 := by omega
      rw [next, place, List.getElem?_cons_succ]

@[simp] theorem length_toOctets (bits : Bits) :
    (toOctets bits).length = (bits.length + 7) / 8 := by
  simp [toOctets]

end Bits

end MnemonicCode
