import MnemonicCode.Octets

/-!
# The SHA-2 hash family

The members of the family share one construction and differ in the word size,
the rotation amounts, the round constants and the initial registers. `Sha2.Word`
is what the construction asks of a word type, `Sha2.Member` holds the data of a
member, and `Sha2.Member.digest` is the hash function.

A message is followed by a one bit, zeros and its bit length, so that it fills
whole blocks of sixteen words. Each block is stretched into one word for every
round constant; the rounds mix these words into the registers, and the registers
are added to what they were before the block.

A message is absorbed octet by octet, so a digest can be resumed after a
beginning that many messages share (`Sha2.Member.resume_absorbed`).

`sha256` and `sha512` are the two members used here. Their digests have 32 and
64 octets (`length_sha256`, `length_sha512`).
-/

set_option autoImplicit false

namespace MnemonicCode.Sha2

/-- What the construction asks of a machine word. An octet goes to its low end and is taken from
there. A shift lets zeros in, a rotation the bits that leave at the other end. -/
class Word (W : Type) extends Add W, AndOp W, OrOp W, XorOp W, Complement W where
  octets : Nat
  ofOctet : UInt8 → W
  toOctet : W → UInt8
  shiftLeft : W → Nat → W
  shiftRight : W → Nat → W
  rotateRight : W → Nat → W

@[inline] instance : Word UInt32 where
  octets := 4
  ofOctet := UInt8.toUInt32
  toOctet := UInt32.toUInt8
  shiftLeft word amount := word <<< amount.toUInt32
  shiftRight word amount := word >>> amount.toUInt32
  rotateRight word amount := word >>> amount.toUInt32 ||| word <<< (32 - amount.toUInt32)

@[inline] instance : Word UInt64 where
  octets := 8
  ofOctet := UInt8.toUInt64
  toOctet := UInt64.toUInt8
  shiftLeft word amount := word <<< amount.toUInt64
  shiftRight word amount := word >>> amount.toUInt64
  rotateRight word amount := word >>> amount.toUInt64 ||| word <<< (64 - amount.toUInt64)

/-- The eight working words. -/
structure Registers (W : Type) where
  a : W
  b : W
  c : W
  d : W
  e : W
  f : W
  g : W
  h : W

/-- Three amounts by which a word is rotated or shifted before the results are
combined. -/
structure Amounts where
  first : Nat
  second : Nat
  third : Nat

/-- The data of one member of the family: the amounts for the registers `a` and `e` in a round,
those for the words fifteen and two places back in the schedule, one constant for every round,
and the registers before the first block. -/
structure Member (W : Type) where
  roundA : Amounts
  roundE : Amounts
  scheduleFar : Amounts
  scheduleNear : Amounts
  constants : List W
  initial : Registers W

section Construction

variable {W : Type} [Word W]

/-- The octets that spell a word, high end first. -/
@[specialize] def Word.toOctets (word : W) : Octets :=
  (List.range (Word.octets W)).map fun place =>
    Word.toOctet (Word.shiftRight word (8 * (Word.octets W - 1 - place)))

/-- The combination of three rotations of a word. -/
@[specialize] def rotations (amounts : Amounts) (word : W) : W :=
  Word.rotateRight word amounts.first ^^^ Word.rotateRight word amounts.second
    ^^^ Word.rotateRight word amounts.third

/-- The combination of two rotations and a shift of a word. -/
@[specialize] def rotationsAndShift (amounts : Amounts) (word : W) : W :=
  Word.rotateRight word amounts.first ^^^ Word.rotateRight word amounts.second
    ^^^ Word.shiftRight word amounts.third

/-- Bits of `e` choose between the bits of `f` and `g`. -/
@[specialize] def choice (e f g : W) : W := (e &&& f) ^^^ (~~~ e &&& g)

/-- The bit that most of the three words have. -/
@[specialize] def majority (a b c : W) : W := (a &&& b) ^^^ (a &&& c) ^^^ (b &&& c)

/-- The next word of the schedule, put before the words so far, newest first. It
is made from the words two, seven, fifteen and sixteen places back, which are
there because a block has sixteen words. -/
@[specialize] def Member.extend (member : Member W) (newest : List W) : List W :=
  match newest with
  | _ :: w2 :: _ :: _ :: _ :: _ :: w7 :: _ :: _ :: _ :: _ :: _ :: _ :: _ :: w15 :: w16 :: _ =>
    (rotationsAndShift member.scheduleNear w2 + w7
      + rotationsAndShift member.scheduleFar w15 + w16) :: newest
  | _ => newest

/-- One word for every round: the words of the block, which come newest first,
then the words made from them. -/
@[specialize] def Member.schedule (member : Member W) (newest : List W) : List W :=
  (Nat.repeat member.extend (member.constants.length - newest.length) newest).reverse

/-- The rounds, each with its constant and its word of the schedule, on the
eight registers. -/
@[specialize] def Member.rounds (member : Member W) (a b c d e f g h : W) :
    List W → List W → Registers W
  | constant :: constants, word :: words =>
    let mixed := h + rotations member.roundE e + choice e f g + constant + word
    let spread := rotations member.roundA a + majority a b c
    rounds member (mixed + spread) a b c (d + mixed) e f g constants words
  | _, _ => ⟨a, b, c, d, e, f, g, h⟩

/-- The registers after a block, whose words come newest first. -/
@[specialize] def Member.compress (member : Member W) (state : Registers W) (newest : List W) :
    Registers W :=
  let last := member.rounds state.a state.b state.c state.d state.e state.f state.g state.h
    member.constants (member.schedule newest)
  ⟨state.a + last.a, state.b + last.b, state.c + last.c, state.d + last.d,
    state.e + last.e, state.f + last.f, state.g + last.g, state.h + last.h⟩

/-- The words in a block. -/
def blockWords : Nat := 16

/-- A message as far as it has been absorbed: the registers after the complete blocks, the
complete words of the block being read, newest first, and the octets read of the next word with
their count. -/
structure Progress (W : Type) where
  registers : Registers W
  newest : List W
  word : W
  count : Nat

/-- Nothing has been absorbed. -/
@[specialize] def Member.begin (member : Member W) : Progress W :=
  ⟨member.initial, [], Word.ofOctet 0, 0⟩

/-- Absorbs one octet. -/
@[specialize] def Member.absorb (member : Member W) (progress : Progress W) (octet : UInt8) :
    Progress W :=
  let word := Word.shiftLeft progress.word 8 ||| Word.ofOctet octet
  if progress.count + 1 < Word.octets W then
    { progress with word, count := progress.count + 1 }
  else
    let newest := word :: progress.newest
    if newest.length < blockWords then
      ⟨progress.registers, newest, Word.ofOctet 0, 0⟩
    else
      ⟨member.compress progress.registers newest, [], Word.ofOctet 0, 0⟩

/-- The progress after more octets. -/
@[specialize] def Member.absorbAll (member : Member W) (progress : Progress W)
    (octets : Octets) : Progress W :=
  octets.foldl member.absorb progress

/-- What follows a message of `length` octets: the mark of its end, zeros, and its
bit length, which ends a block. -/
@[specialize] def ending (W : Type) [Word W] (length : Nat) : Octets :=
  let blockLength := blockWords * Word.octets W
  let lengthOctets := 2 * Word.octets W
  let used := length + 1 + lengthOctets
  0x80 :: List.replicate ((blockLength - used % blockLength) % blockLength) 0
    ++ Octets.ofNat lengthOctets (8 * length)

/-- The octets of the registers, in order. -/
@[specialize] def Registers.toOctets (state : Registers W) : Octets :=
  [state.a, state.b, state.c, state.d, state.e, state.f, state.g, state.h].flatMap
    Word.toOctets

/-- The digest of a message whose first `absorbed` octets led to the progress and
whose other octets are given. -/
@[specialize] def Member.resume (member : Member W) (progress : Progress W) (absorbed : Nat)
    (rest : Octets) : Octets :=
  let whole := member.absorbAll (member.absorbAll progress rest)
    (ending W (absorbed + rest.length))
  whole.registers.toOctets

/-- The digest of a message. -/
@[specialize] def Member.digest (member : Member W) (message : Octets) : Octets :=
  member.resume member.begin 0 message

theorem Member.length_resume (member : Member W) (progress : Progress W) (absorbed : Nat)
    (rest : Octets) : (member.resume progress absorbed rest).length = 8 * Word.octets W := by
  simp [Member.resume, Registers.toOctets, Word.toOctets]
  omega

theorem Member.length_digest (member : Member W) (message : Octets) :
    (member.digest message).length = 8 * Word.octets W :=
  member.length_resume member.begin 0 message

/-- A digest may be resumed after any part of the message. -/
theorem Member.resume_absorbed (member : Member W) (first rest : Octets) :
    member.resume (member.absorbAll member.begin first) first.length rest
      = member.digest (first ++ rest) := by
  simp [Member.digest, Member.resume, Member.absorbAll]

end Construction

/-- The member with words of 32 bits. Its constants are the leading fraction bits
of the cube roots of the first 64 primes, its initial registers those of the
square roots of the first eight. -/
def sha256Member : Member UInt32 where
  roundA := ⟨2, 13, 22⟩
  roundE := ⟨6, 11, 25⟩
  scheduleFar := ⟨7, 18, 3⟩
  scheduleNear := ⟨17, 19, 10⟩
  constants := [
    0x428a2f98, 0x71374491, 0xb5c0fbcf, 0xe9b5dba5, 0x3956c25b, 0x59f111f1,
    0x923f82a4, 0xab1c5ed5, 0xd807aa98, 0x12835b01, 0x243185be, 0x550c7dc3,
    0x72be5d74, 0x80deb1fe, 0x9bdc06a7, 0xc19bf174, 0xe49b69c1, 0xefbe4786,
    0x0fc19dc6, 0x240ca1cc, 0x2de92c6f, 0x4a7484aa, 0x5cb0a9dc, 0x76f988da,
    0x983e5152, 0xa831c66d, 0xb00327c8, 0xbf597fc7, 0xc6e00bf3, 0xd5a79147,
    0x06ca6351, 0x14292967, 0x27b70a85, 0x2e1b2138, 0x4d2c6dfc, 0x53380d13,
    0x650a7354, 0x766a0abb, 0x81c2c92e, 0x92722c85, 0xa2bfe8a1, 0xa81a664b,
    0xc24b8b70, 0xc76c51a3, 0xd192e819, 0xd6990624, 0xf40e3585, 0x106aa070,
    0x19a4c116, 0x1e376c08, 0x2748774c, 0x34b0bcb5, 0x391c0cb3, 0x4ed8aa4a,
    0x5b9cca4f, 0x682e6ff3, 0x748f82ee, 0x78a5636f, 0x84c87814, 0x8cc70208,
    0x90befffa, 0xa4506ceb, 0xbef9a3f7, 0xc67178f2]
  initial := ⟨
    0x6a09e667, 0xbb67ae85, 0x3c6ef372, 0xa54ff53a,
    0x510e527f, 0x9b05688c, 0x1f83d9ab, 0x5be0cd19⟩

/-- The member with words of 64 bits. Its constants are the leading fraction bits
of the cube roots of the first 80 primes, its initial registers those of the
square roots of the first eight. -/
def sha512Member : Member UInt64 where
  roundA := ⟨28, 34, 39⟩
  roundE := ⟨14, 18, 41⟩
  scheduleFar := ⟨1, 8, 7⟩
  scheduleNear := ⟨19, 61, 6⟩
  constants := [
    0x428a2f98d728ae22, 0x7137449123ef65cd, 0xb5c0fbcfec4d3b2f, 0xe9b5dba58189dbbc,
    0x3956c25bf348b538, 0x59f111f1b605d019, 0x923f82a4af194f9b, 0xab1c5ed5da6d8118,
    0xd807aa98a3030242, 0x12835b0145706fbe, 0x243185be4ee4b28c, 0x550c7dc3d5ffb4e2,
    0x72be5d74f27b896f, 0x80deb1fe3b1696b1, 0x9bdc06a725c71235, 0xc19bf174cf692694,
    0xe49b69c19ef14ad2, 0xefbe4786384f25e3, 0x0fc19dc68b8cd5b5, 0x240ca1cc77ac9c65,
    0x2de92c6f592b0275, 0x4a7484aa6ea6e483, 0x5cb0a9dcbd41fbd4, 0x76f988da831153b5,
    0x983e5152ee66dfab, 0xa831c66d2db43210, 0xb00327c898fb213f, 0xbf597fc7beef0ee4,
    0xc6e00bf33da88fc2, 0xd5a79147930aa725, 0x06ca6351e003826f, 0x142929670a0e6e70,
    0x27b70a8546d22ffc, 0x2e1b21385c26c926, 0x4d2c6dfc5ac42aed, 0x53380d139d95b3df,
    0x650a73548baf63de, 0x766a0abb3c77b2a8, 0x81c2c92e47edaee6, 0x92722c851482353b,
    0xa2bfe8a14cf10364, 0xa81a664bbc423001, 0xc24b8b70d0f89791, 0xc76c51a30654be30,
    0xd192e819d6ef5218, 0xd69906245565a910, 0xf40e35855771202a, 0x106aa07032bbd1b8,
    0x19a4c116b8d2d0c8, 0x1e376c085141ab53, 0x2748774cdf8eeb99, 0x34b0bcb5e19b48a8,
    0x391c0cb3c5c95a63, 0x4ed8aa4ae3418acb, 0x5b9cca4f7763e373, 0x682e6ff3d6b2b8a3,
    0x748f82ee5defb2fc, 0x78a5636f43172f60, 0x84c87814a1f0ab72, 0x8cc702081a6439ec,
    0x90befffa23631e28, 0xa4506cebde82bde9, 0xbef9a3f7b2c67915, 0xc67178f2e372532b,
    0xca273eceea26619c, 0xd186b8c721c0c207, 0xeada7dd6cde0eb1e, 0xf57d4f7fee6ed178,
    0x06f067aa72176fba, 0x0a637dc5a2c898a6, 0x113f9804bef90dae, 0x1b710b35131c471b,
    0x28db77f523047d84, 0x32caab7b40c72493, 0x3c9ebe0a15c9bebc, 0x431d67c49c100d4c,
    0x4cc5d4becb3e42b6, 0x597f299cfc657e2a, 0x5fcb6fab3ad6faec, 0x6c44198c4a475817]
  initial := ⟨
    0x6a09e667f3bcc908, 0xbb67ae8584caa73b, 0x3c6ef372fe94f82b, 0xa54ff53a5f1d36f1,
    0x510e527fade682d1, 0x9b05688c2b3e6c1f, 0x1f83d9abfb41bd6b, 0x5be0cd19137e2179⟩

end MnemonicCode.Sha2

namespace MnemonicCode

/-- The SHA-256 digest of a message. -/
def sha256 (message : Octets) : Octets := Sha2.sha256Member.digest message

/-- The SHA-512 digest of a message. -/
def sha512 (message : Octets) : Octets := Sha2.sha512Member.digest message

@[simp] theorem length_sha256 (message : Octets) : (sha256 message).length = 32 :=
  Sha2.sha256Member.length_digest message

@[simp] theorem length_sha512 (message : Octets) : (sha512 message).length = 64 :=
  Sha2.sha512Member.length_digest message

end MnemonicCode
