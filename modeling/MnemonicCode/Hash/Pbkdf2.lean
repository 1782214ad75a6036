import MnemonicCode.Hash.Sha2

/-!
# Keyed hashing and password stretching

`hmacSha512` authenticates a message with a key: the key, brought to the block
length, is mixed with one of two fixed octets before each of two hashes
(`hmacSha512_eq`). What both hashes make of the key is kept in a `HmacKey`.

`pbkdf2` stretches a password: every block of output is the sum, bit by bit, of
a chain of keyed hashes that starts from the salt and the number of the block.
-/

set_option autoImplicit false

namespace MnemonicCode

/-- The octets in a block of SHA-512. -/
def sha512BlockLength : Nat := 128

/-- The key as one block: a longer key is hashed first, a shorter one is filled
up with zeros. -/
def hmacKeyBlock (key : Octets) : Octets :=
  let short := if key.length > sha512BlockLength then sha512 key else key
  short ++ List.replicate (sha512BlockLength - short.length) 0

/-- A key as the two hashes have absorbed it, the one that reads the message and the one that
reads the first digest. -/
structure HmacKey where
  inner : Sha2.Progress UInt64
  outer : Sha2.Progress UInt64

/-- Absorbs a key. -/
def HmacKey.ofOctets (key : Octets) : HmacKey :=
  let block := hmacKeyBlock key
  let absorbed (octets : Octets) := Sha2.sha512Member.absorbAll Sha2.sha512Member.begin octets
  ⟨absorbed (block.map (· ^^^ 0x36)), absorbed (block.map (· ^^^ 0x5c))⟩

/-- The keyed hash of a message. -/
def HmacKey.hash (key : HmacKey) (message : Octets) : Octets :=
  let first := Sha2.sha512Member.resume key.inner sha512BlockLength message
  Sha2.sha512Member.resume key.outer sha512BlockLength first

/-- The keyed hash of a message under a key given in octets. -/
def hmacSha512 (key message : Octets) : Octets := (HmacKey.ofOctets key).hash message

/-- The sum of two octet sequences, bit by bit. -/
def xorOctets (left right : Octets) : Octets := List.zipWith (· ^^^ ·) left right

/-- The chain of keyed hashes for one block: the last hash and the sum of all
hashes so far. -/
def pbkdf2Step (key : HmacKey) (chain : Octets × Octets) : Octets × Octets :=
  let next := key.hash chain.1
  (next, xorOctets chain.2 next)

/-- Block `number` of the output, counted from one. -/
def pbkdf2Block (key : HmacKey) (salt : Octets) (rounds number : Nat) : Octets :=
  let first := key.hash (salt ++ Octets.ofNat 4 number)
  (Nat.repeat (pbkdf2Step key) (rounds - 1) (first, first)).2

/-- The first `length` octets of the stretched password. -/
def pbkdf2 (password salt : Octets) (rounds length : Nat) : Octets :=
  let key := HmacKey.ofOctets password
  ((List.range ((length + 63) / 64)).flatMap fun index =>
    pbkdf2Block key salt rounds (index + 1)).take length

@[simp] theorem length_hmacKeyBlock (key : Octets) :
    (hmacKeyBlock key).length = sha512BlockLength := by
  unfold hmacKeyBlock
  split
  · simp [sha512BlockLength]
  · next short =>
    simp
    omega

theorem hmacSha512_eq (key message : Octets) :
    hmacSha512 key message =
      sha512 ((hmacKeyBlock key).map (· ^^^ 0x5c)
        ++ sha512 ((hmacKeyBlock key).map (· ^^^ 0x36) ++ message)) := by
  have length (pad : UInt8) :
      ((hmacKeyBlock key).map (· ^^^ pad)).length = sha512BlockLength := by simp
  unfold sha512
  rw [← Sha2.Member.resume_absorbed, ← Sha2.Member.resume_absorbed, length, length]
  rfl

@[simp] theorem HmacKey.length_hash (key : HmacKey) (message : Octets) :
    (key.hash message).length = 64 :=
  Sha2.sha512Member.length_resume key.outer sha512BlockLength _

/-- Each step of the chain keeps the sum at 64 octets. -/
theorem length_pbkdf2Step (key : HmacKey) (chain : Octets × Octets)
    (length_sum : chain.2.length = 64) : (pbkdf2Step key chain).2.length = 64 := by
  simp [pbkdf2Step, xorOctets, length_sum]

@[simp] theorem length_pbkdf2Block (key : HmacKey) (salt : Octets) (rounds number : Nat) :
    (pbkdf2Block key salt rounds number).length = 64 := by
  unfold pbkdf2Block
  generalize rounds - 1 = steps
  induction steps with
  | zero => simp [Nat.repeat]
  | succ steps ih => exact length_pbkdf2Step key _ ih

@[simp] theorem length_pbkdf2 (password salt : Octets) (rounds length : Nat) :
    (pbkdf2 password salt rounds length).length = length := by
  simp [pbkdf2, List.length_flatMap, List.map_const']
  omega

end MnemonicCode
