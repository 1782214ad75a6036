import MnemonicCode.Bits

/-!
# Packed bit strings

A bit string keeps its bits eight to an octet, the first bit in the high
position of the first octet, together with the number of bits held. It grows at
its end, bit by bit or by the low bits of a number, and is read at any offset.

`BitString.toBits` is the sequence that a bit string stands for, and it
determines the storage (`BitString.toOctets_toBits`). Every operation is
described through this sequence: appending (`toBits_push`, `toBits_append`) and
reading (`bit?_eq`, `read?_eq`, `leadingOctets?_eq_some_iff`, `groups_eq`). All
reading is bounded: a range past the end has no value, and no read is wider than
32 bits. No push is wider either; where the width is known to be allowed, the push
is known not to be refused (`BitString.appendLow`).
-/

set_option autoImplicit false

namespace MnemonicCode

/-- The widest number, in bits, that is pushed, read or taken from a digest at once. -/
def maxWidth : Nat := 32

/-- A request for more than `maxWidth` bits at once, which were to be appended to a bit string
or to be taken from a digest. -/
inductive WidthFault where
  | push
  | checksum
  deriving DecidableEq, Repr

/-- The text of the fault. -/
def WidthFault.message : WidthFault → String
  | push => "cannot push more than 32 bits at once"
  | checksum => "checksum longer than 32 bits"

section Granted

variable {α : Type} {outcome : Except WidthFault α} {value : α}

/-- What a request gives that is known not to be refused. -/
def granted : (outcome : Except WidthFault α) → outcome.isOk = true → α
  | .ok value, _ => value

theorem isOk_of_eq_ok (given : outcome = .ok value) : outcome.isOk = true := by
  rw [given]
  rfl

theorem granted_eq (given : outcome = .ok value) (fine : outcome.isOk = true) :
    granted outcome fine = value := by
  subst given
  rfl

end Granted

/-- The bit that octets hold at `index`: position `7 - index % 8` of octet
`index / 8`. Past the octets all bits are zero. -/
def storedBit (octets : Array UInt8) (index : Nat) : Bool :=
  (octets.getD (index / 8) 0).toNat.testBit (7 - index % 8)

/-- The octets with the bit at `index` turned on. -/
def withBit (octets : Array UInt8) (index : Nat) : Array UInt8 :=
  octets.modify (index / 8) (· ||| (0x80 >>> (index % 8).toUInt8))

@[simp] theorem size_withBit (octets : Array UInt8) (index : Nat) :
    (withBit octets index).size = octets.size := by
  simp [withBit]

/-- The mask for a place has a bit at this place only. -/
theorem testBit_mask (place other : Fin 8) :
    ((0x80 : UInt8) >>> place.val.toUInt8).toNat.testBit (7 - other.val)
      = decide (other = place) := by
  revert place other
  decide

/-- Turning a bit on changes this bit only. -/
theorem storedBit_withBit {octets : Array UInt8} {index : Nat}
    (inside : index / 8 < octets.size) (other : Nat) :
    storedBit (withBit octets index) other
      = (storedBit octets other || decide (other = index)) := by
  have mask := testBit_mask ⟨index % 8, by omega⟩ ⟨other % 8, by omega⟩
  simp only [Fin.mk.injEq] at mask
  unfold storedBit withBit
  by_cases same : other / 8 = index / 8
  · have agree : other % 8 = index % 8 ↔ other = index := by omega
    have value : (octets.modify (index / 8) (· ||| (0x80 >>> (index % 8).toUInt8))).getD
        (index / 8) 0 = octets[index / 8] ||| (0x80 >>> (index % 8).toUInt8) := by
      simp [Array.getD, inside, Array.getElem_modify]
    rw [same, value, UInt8.toNat_or, Nat.testBit_or, mask]
    simp [Array.getD, inside, agree]
  · have differ : other ≠ index := fun equal => same (by rw [equal])
    have apart : index / 8 ≠ other / 8 := fun equal => same equal.symm
    simp [Array.getD, Array.getElem_modify, apart, differ]

@[simp] theorem storedBit_push_zero (octets : Array UInt8) (index : Nat) :
    storedBit (octets.push 0) index = storedBit octets index := by
  unfold storedBit
  congr 2
  simp only [Array.getD_eq_getD_getElem?, Array.getElem?_push]
  split
  · next last => simp [last]
  · rfl

/-- Bits packed into octets, high position first. The positions after the last bit held are
zero. -/
structure BitString where
  octets : Array UInt8
  length : Nat
  size_eq : octets.size = (length + 7) / 8
  unused : ∀ index, length ≤ index → storedBit octets index = false
  deriving DecidableEq, Repr

namespace BitString

/-- The bit string that holds nothing. -/
def empty : BitString := ⟨#[], 0, rfl, fun _ _ => by simp [storedBit]⟩

/-- The bit string that holds the octets bit for bit. -/
def ofOctets (octets : Octets) : BitString where
  octets := octets.toArray
  length := 8 * octets.length
  size_eq := by simp; omega
  unused index past := by
    have outside : ¬ index / 8 < octets.length := by omega
    simp [storedBit, Array.getD, outside]

/-- The bits held, in order. -/
def toBits (string : BitString) : Bits :=
  (List.range string.length).map (storedBit string.octets)

/-- Whether no bits are held. -/
def isEmpty (string : BitString) : Bool := string.length == 0

/-- The bit at `index`, unless that is past the end. -/
def bit? (string : BitString) (index : Nat) : Option Bool :=
  if index < string.length then some (storedBit string.octets index) else none

/-- The storage with room for one more bit, in a new octet if the last one is
full. -/
def opened (string : BitString) : Array UInt8 :=
  if string.length % 8 = 0 then string.octets.push 0 else string.octets

theorem size_opened (string : BitString) : string.opened.size = string.length / 8 + 1 := by
  have size := string.size_eq
  unfold opened
  split
  · rw [Array.size_push]
    omega
  · omega

@[simp] theorem storedBit_opened (string : BitString) (index : Nat) :
    storedBit string.opened index = storedBit string.octets index := by
  unfold opened
  split <;> simp

/-- The storage after one more bit. -/
def extended (string : BitString) (bit : Bool) : Array UInt8 :=
  if bit then withBit string.opened string.length else string.opened

/-- One more bit goes to the place after the bits held. -/
theorem storedBit_extended (string : BitString) (bit : Bool) (index : Nat) :
    storedBit (string.extended bit) index
      = if index = string.length then bit else storedBit string.octets index := by
  have inside : string.length / 8 < string.opened.size := by
    rw [size_opened]
    omega
  have free := string.unused string.length (Nat.le_refl _)
  cases bit with
  | false =>
    by_cases last : index = string.length <;> simp [extended, last, free]
  | true =>
    rw [extended, if_pos rfl, storedBit_withBit inside, storedBit_opened]
    by_cases last : index = string.length <;> simp [last]

/-- Appends one bit. -/
def push (string : BitString) (bit : Bool) : BitString where
  octets := string.extended bit
  length := string.length + 1
  size_eq := by
    have size : (string.extended bit).size = string.opened.size := by
      unfold extended
      split <;> simp
    rw [size, size_opened]
    omega
  unused index past := by
    rw [storedBit_extended, if_neg (by omega)]
    exact string.unused index (by omega)

/-- Appends bits one after the other. -/
def append (string : BitString) (bits : Bits) : BitString := bits.foldl push string

/-- Appends the low `width` bits of `value`, most significant first, when the
width is allowed. -/
def append? (string : BitString) (value width : Nat) : Except WidthFault BitString :=
  if width ≤ maxWidth then .ok (string.append (Bits.ofNat width value)) else .error .push

/-- An allowed width is not refused. -/
theorem append?_eq_ok (string : BitString) (value : Nat) {width : Nat}
    (allowed : width ≤ maxWidth) :
    string.append? value width = .ok (string.append (Bits.ofNat width value)) :=
  if_pos allowed

/-- Appends the low `width` bits of `value`. The caller knows that the width is allowed. -/
def appendLow (string : BitString) (value width : Nat) (allowed : width ≤ maxWidth) : BitString :=
  granted (string.append? value width) (isOk_of_eq_ok (string.append?_eq_ok value allowed))

/-- The number spelled by the `width` bits from `start` on, unless the width is
not allowed or the range runs past the end. -/
def read? (string : BitString) (start width : Nat) : Option Nat :=
  if width ≤ maxWidth ∧ start + width ≤ string.length then
    some (Bits.toNat ((List.range width).map fun offset =>
      storedBit string.octets (start + offset)))
  else
    none

/-- The first `count` bits as octets, when they are held and fill whole octets. -/
def leadingOctets? (string : BitString) (count : Nat) : Option Octets :=
  if count % 8 = 0 ∧ count ≤ string.length then
    some (string.octets.take (count / 8)).toList
  else
    none

/-- The numbers spelled by consecutive groups of `width` bits; a short group at
the end is left out, and so are groups that cannot be read. -/
def groups (string : BitString) (width : Nat) : List Nat :=
  (List.range (string.length / max width 1)).filterMap fun index =>
    string.read? (index * width) width

/-! ## The bits of a bit string -/

@[simp] theorem length_toBits (string : BitString) : string.toBits.length = string.length := by
  simp [toBits]

theorem bit?_eq (string : BitString) (index : Nat) : string.bit? index = string.toBits[index]? := by
  unfold bit? toBits
  split
  · next inside => simp [inside]
  · next outside => simp [outside]

@[simp] theorem toBits_empty : empty.toBits = [] := rfl

@[simp] theorem toBits_ofOctets (octets : Octets) :
    (ofOctets octets).toBits = Bits.ofOctets octets := by
  apply List.ext_getElem?
  intro index
  rw [← bit?_eq, Bits.getElem?_ofOctets]
  unfold bit? storedBit
  by_cases inside : index / 8 < octets.length
  · have below : index < 8 * octets.length := by omega
    simp [ofOctets, below, inside, Array.getD]
  · have past : ¬ index < 8 * octets.length := by omega
    simp [ofOctets, past, inside]

@[simp] theorem toBits_push (string : BitString) (bit : Bool) :
    (string.push bit).toBits = string.toBits ++ [bit] := by
  simp only [toBits, push, List.range_succ, List.map_append, List.map_cons, List.map_nil,
    storedBit_extended, if_true]
  congr 1
  refine List.map_congr_left fun index inside => ?_
  rw [storedBit_extended, if_neg (Nat.ne_of_lt (List.mem_range.mp inside))]

@[simp] theorem toBits_append (string : BitString) (bits : Bits) :
    (string.append bits).toBits = string.toBits ++ bits := by
  unfold append
  induction bits generalizing string with
  | nil => simp
  | cons bit rest ih => simp [ih]

@[simp] theorem toBits_appendLow (string : BitString) (value : Nat) {width : Nat}
    (allowed : width ≤ maxWidth) :
    (string.appendLow value width allowed).toBits = string.toBits ++ Bits.ofNat width value := by
  rw [appendLow, granted_eq (append?_eq_ok string value allowed), toBits_append]

/-- The bits in a range, as a part of the sequence of bits. -/
theorem map_storedBit (string : BitString) {start width : Nat}
    (inside : start + width ≤ string.length) :
    (List.range width).map (fun offset => storedBit string.octets (start + offset))
      = (string.toBits.drop start).take width := by
  apply List.ext_getElem?
  intro index
  rw [List.getElem?_take, List.getElem?_drop, ← bit?_eq]
  by_cases small : index < width
  · have held : start + index < string.length := by omega
    simp [bit?, small, held]
  · simp [small]

/-- A number is read from the part of the sequence that the range covers. -/
theorem read?_eq (string : BitString) (start width : Nat) :
    string.read? start width =
      if width ≤ maxWidth ∧ start + width ≤ string.length then
        some (Bits.toNat ((string.toBits.drop start).take width))
      else none := by
  unfold read?
  split
  · next allowed => rw [map_storedBit string allowed.2]
  · rfl

/-- Storage is the packed sequence of bits. -/
theorem toOctets_toBits (string : BitString) :
    Bits.toOctets string.toBits = string.octets.toList := by
  apply List.ext_getElem
  · simp [string.size_eq]
  intro index _ inside
  have inside : index < string.octets.size := by simpa using inside
  have bits : ((List.range 8).map fun place => string.toBits.getD (8 * index + place) false)
      = Bits.ofNat 8 string.octets[index].toNat := by
    refine List.map_congr_left fun place small => ?_
    have small := List.mem_range.mp small
    have octet : (8 * index + place) / 8 = index := by omega
    have position : (8 * index + place) % 8 = place := by omega
    have stored : storedBit string.octets (8 * index + place)
        = string.octets[index].toNat.testBit (8 - 1 - place) := by
      unfold storedBit
      rw [octet, position]
      simp [Array.getD, inside]
    rw [List.getD_eq_getElem?_getD, ← bit?_eq]
    unfold bit?
    split
    · exact stored
    · next past => rw [← stored, string.unused _ (by omega)]; rfl
  simp only [Bits.toOctets, List.getElem_map, List.getElem_range, Array.getElem_toList, bits,
    Bits.toNat_ofNat_octet, UInt8.ofNat_toNat]

theorem toBits_inj {left right : BitString} (same : left.toBits = right.toBits) :
    left = right := by
  have octets : left.octets = right.octets := by
    apply Array.toList_inj.mp
    rw [← toOctets_toBits, ← toOctets_toBits, same]
  have length : left.length = right.length := by
    rw [← length_toBits, ← length_toBits, same]
  cases left
  cases right
  cases octets
  cases length
  rfl

@[simp] theorem toOctets_ofOctets (octets : Octets) :
    Bits.toOctets (Bits.ofOctets octets) = octets := by
  rw [← toBits_ofOctets, toOctets_toBits]
  rfl

theorem ofOctets_inj {left right : Octets} (same : Bits.ofOctets left = Bits.ofOctets right) :
    left = right := by
  rw [← toOctets_ofOctets left, ← toOctets_ofOctets right, same]

/-- The first bits are given as the octets that hold exactly them. -/
theorem leadingOctets?_eq_some_iff (string : BitString) (count : Nat) (octets : Octets) :
    string.leadingOctets? count = some octets ↔
      count ≤ string.length ∧ Bits.ofOctets octets = string.toBits.take count := by
  have leading : (string.octets.take (count / 8)).toList
      = string.octets.toList.take (count / 8) := by
    simp
  have taken (whole : count % 8 = 0) (held : count ≤ string.length) :
      Bits.ofOctets (string.octets.toList.take (count / 8)) = string.toBits.take count := by
    apply List.ext_getElem?
    intro index
    rw [Bits.getElem?_ofOctets, List.getElem?_take, List.getElem?_take, ← bit?_eq]
    by_cases small : index < count
    · have size := string.size_eq
      have inside : index / 8 < string.octets.size := by omega
      have low : index / 8 < count / 8 := by omega
      have before : index < string.length := by omega
      simp [bit?, storedBit, Array.getD, small, inside, low, before]
    · have high : ¬ index / 8 < count / 8 := by omega
      simp [small, high]
  constructor
  · intro given
    unfold leadingOctets? at given
    split at given
    · next allowed =>
      cases given
      rw [leading]
      exact ⟨allowed.2, taken allowed.1 allowed.2⟩
    · cases given
  · rintro ⟨held, same⟩
    have whole : count % 8 = 0 := by
      have lengths := congrArg List.length same
      simp only [Bits.length_ofOctets, List.length_take, length_toBits] at lengths
      omega
    rw [leadingOctets?, if_pos ⟨whole, held⟩, leading]
    rw [ofOctets_inj ((taken whole held).trans same.symm)]

/-- Groups of an allowed width are all read. -/
theorem groups_eq (string : BitString) {width : Nat} (positive : 1 ≤ width)
    (allowed : width ≤ maxWidth) :
    string.groups width = (List.range (string.length / width)).map fun index =>
      Bits.toNat ((string.toBits.drop (index * width)).take width) := by
  have all (count : Nat) (fits : count * width ≤ string.length) :
      (List.range count).filterMap (fun index => string.read? (index * width) width)
        = (List.range count).map fun index =>
            Bits.toNat ((string.toBits.drop (index * width)).take width) := by
    induction count with
    | zero => rfl
    | succ count ih =>
      rw [Nat.succ_mul] at fits
      rw [List.range_succ, List.filterMap_append, List.map_append, ih (by omega)]
      simp [read?_eq, allowed, fits]
  unfold groups
  rw [Nat.max_eq_left positive]
  exact all _ (Nat.div_mul_le_self _ _)

end BitString

end MnemonicCode
