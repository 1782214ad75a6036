import MnemonicCode.Phrasebook
import MnemonicCode.Proofs.Phrase.RoundTrip
import Mathlib

/-!
# Seeds and the spacing of phrases

A phrase is checked word by word, but its seed is stretched from its text, blank
characters included. Texts that are valid and have the same words share their
entropy and, for one passphrase, their salt; they share the password only when
they are the same text (`seed_of_same_words`).

Among the texts with the words of a valid phrase there is one that is spaced
singly, and it is the phrase that encoding gives. A text that spaces the same
words otherwise is valid too and is stretched from another password
(`password_ne_of_spacing`).
-/

set_option autoImplicit false

namespace MnemonicCode

namespace Phrase

variable {list : WordList} {octets : Octets} {text : String}

/-! ## Single spaces -/

/-- One space stands between neighbouring words, and nothing stands around them. -/
def IsSpacedSingly (text : String) : Prop := ofWords (Text.words text) = text

theorem IsSpacedSingly.eq_of_words_eq {left right : String} (singly : IsSpacedSingly left)
    (also : IsSpacedSingly right) (same : Text.words left = Text.words right) : left = right := by
  rw [← singly, ← also, same]

/-- Of all texts with the same words, encoding gives the one that is spaced
singly. -/
theorem isSpacedSingly_iff (spells : Spells list octets (Text.words text)) :
    IsSpacedSingly text ↔ encode list octets = .ok text := by
  have encoded := encode_eq_ok_iff.mpr ⟨_, spells, rfl⟩
  rw [encoded, Except.ok.injEq]
  rfl

end Phrase

open Phrase (IsSpacedSingly)

/-! ## Passwords -/

namespace Seed

/-- Texts are the same when they are used as the same password. -/
theorem password_inj {left right : String} : password left = password right ↔ left = right :=
  ⟨Utf8.encode_inj, congrArg password⟩

end Seed

namespace Phrasebook

/-- A valid text has a seed, and it is stretched from the text as it stands. -/
theorem exists_seed {book : Phrasebook} {text : String} (valid : book.check text = .ok ())
    (passphrase : String) :
    ∃ seed, book.seed text passphrase = .ok seed ∧
      seed.octets
        = pbkdf2 (Seed.password text) (Seed.salt passphrase) stretchingRounds seedLength := by
  refine ⟨Seed.derive text passphrase, ?_, ?_⟩
  · rw [seed, valid]
  · rw [Seed.derive]

/-- **Valid texts with the same words have the entropy and the salt in common, but
the password only when they are the same text.** The phrase that encoding gives
for the entropy is the one text with these words that is spaced singly, so texts
that are both spaced singly have the same seed. -/
theorem seed_of_same_words (book : Phrasebook) (passphrase : String) {left right : String}
    (leftValid : book.check left = .ok ()) (rightValid : book.check right = .ok ())
    (same : Text.words left = Text.words right) :
    (∃ leftSeed rightSeed,
      book.seed left passphrase = .ok leftSeed ∧ book.seed right passphrase = .ok rightSeed ∧
      leftSeed.octets
        = pbkdf2 (Seed.password left) (Seed.salt passphrase) stretchingRounds seedLength ∧
      rightSeed.octets
        = pbkdf2 (Seed.password right) (Seed.salt passphrase) stretchingRounds seedLength) ∧
    (Seed.password left = Seed.password right ↔ left = right) ∧
    (∃ octets, book.entropy left = .ok octets ∧ book.entropy right = .ok octets ∧
      (IsSpacedSingly left ↔ book.encode octets = .ok left) ∧
      (IsSpacedSingly right ↔ book.encode octets = .ok right)) ∧
    (IsSpacedSingly left → IsSpacedSingly right →
      book.seed left passphrase = book.seed right passphrase) := by
  obtain ⟨leftSeed, leftDerived, leftOctets⟩ := exists_seed leftValid passphrase
  obtain ⟨rightSeed, rightDerived, rightOctets⟩ := exists_seed rightValid passphrase
  obtain ⟨octets, leftSpells⟩ := Phrase.check_eq_ok_iff.mp leftValid
  have rightSpells : Phrase.Spells book.list octets (Text.words right) := same ▸ leftSpells
  refine ⟨⟨leftSeed, rightSeed, leftDerived, rightDerived, leftOctets, rightOctets⟩,
    Seed.password_inj, ⟨octets, ?_, ?_, ?_, ?_⟩, ?_⟩
  · exact Phrase.entropy_eq_ok_iff.mpr leftSpells
  · exact Phrase.entropy_eq_ok_iff.mpr rightSpells
  · exact Phrase.isSpacedSingly_iff leftSpells
  · exact Phrase.isSpacedSingly_iff rightSpells
  · intro leftSingly rightSingly
    rw [leftSingly.eq_of_words_eq rightSingly same]

/-! ## Two spacings of one phrase -/

/-- The words for 128 zero bits. -/
def zeroWords : List String := List.replicate 11 "abandon" ++ ["about"]

/-- These words, spaced singly. -/
def zeroPhrase : String :=
  "abandon abandon abandon abandon abandon abandon abandon abandon abandon abandon abandon about"

/-- These words, with blanks of several kinds around and between them. -/
def loosePhrase : String :=
  " abandon  abandon abandon\tabandon abandon abandon abandon abandon abandon abandon\nabandon "
    ++ "about\n"

/-- The phrasebook over the standard English list, for which no randomness is needed. -/
def sample : Phrasebook := english (.repeating [])

/-- The values for 128 zero bits. -/
theorem values_zero :
    Phrase.values .bits128 (List.replicate 16 0) = List.replicate 11 0 ++ [3] := by
  decide +kernel

theorem spells_zeroWords : Phrase.Spells WordList.english (List.replicate 16 0) zeroWords := by
  refine ⟨.bits128, rfl, ?_⟩
  rw [values_zero]
  decide +kernel

theorem words_zeroPhrase : Text.words zeroPhrase = zeroWords := by decide +kernel

theorem words_loosePhrase : Text.words loosePhrase = zeroWords := by decide +kernel

theorem check_zeroPhrase : sample.check zeroPhrase = .ok () :=
  Phrase.check_eq_ok_iff.mpr ⟨_, words_zeroPhrase ▸ spells_zeroWords⟩

theorem check_loosePhrase : sample.check loosePhrase = .ok () :=
  Phrase.check_eq_ok_iff.mpr ⟨_, words_loosePhrase ▸ spells_zeroWords⟩

/-- **A valid phrase has a valid spacing that is stretched from another
password.** -/
theorem password_ne_of_spacing :
    sample.check zeroPhrase = .ok () ∧ sample.check loosePhrase = .ok () ∧
      Text.words zeroPhrase = Text.words loosePhrase ∧
      Seed.password zeroPhrase ≠ Seed.password loosePhrase := by
  refine ⟨check_zeroPhrase, check_loosePhrase, ?_, ?_⟩
  · rw [words_zeroPhrase, words_loosePhrase]
  · exact fun same => absurd (Seed.password_inj.mp same) (by decide)

theorem seed_of_same_words_zeros :
    sample.check zeroPhrase = .ok () ∧ sample.check loosePhrase = .ok () ∧
    Text.words zeroPhrase = Text.words loosePhrase ∧
    (∃ leftSeed rightSeed,
      sample.seed zeroPhrase "hunter2" = .ok leftSeed ∧
      sample.seed loosePhrase "hunter2" = .ok rightSeed ∧
      leftSeed.octets
        = pbkdf2 (Seed.password zeroPhrase) (Seed.salt "hunter2") stretchingRounds seedLength ∧
      rightSeed.octets
        = pbkdf2 (Seed.password loosePhrase) (Seed.salt "hunter2") stretchingRounds seedLength) ∧
    (Seed.password zeroPhrase = Seed.password loosePhrase ↔ zeroPhrase = loosePhrase) ∧
    (∃ octets, sample.entropy zeroPhrase = .ok octets ∧ sample.entropy loosePhrase = .ok octets ∧
      (IsSpacedSingly zeroPhrase ↔ sample.encode octets = .ok zeroPhrase) ∧
      (IsSpacedSingly loosePhrase ↔ sample.encode octets = .ok loosePhrase)) ∧
    (IsSpacedSingly zeroPhrase → IsSpacedSingly loosePhrase →
      sample.seed zeroPhrase "hunter2" = sample.seed loosePhrase "hunter2") := by
  have same : Text.words zeroPhrase = Text.words loosePhrase := by
    rw [words_zeroPhrase, words_loosePhrase]
  exact ⟨check_zeroPhrase, check_loosePhrase, same,
    seed_of_same_words sample "hunter2" check_zeroPhrase check_loosePhrase same⟩

end Phrasebook

end MnemonicCode
