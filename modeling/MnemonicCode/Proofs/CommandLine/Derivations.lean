import MnemonicCode.Proofs.CommandLine.Endings
import MnemonicCode.Proofs.CommandLine.Readings
import MnemonicCode.Proofs.WordList.Pin
import Mathlib

/-!
# Validating a phrase and deriving its seed

The commands `validate` and `seed` read the arguments after their names alike, and they come
to the same end: both stop before the phrase is looked at, or both reject it, or both accept
it (`endAlike_run`). They differ in how they tell a rejection. For `validate` it is the
result, on the output, and for `seed` it is a failure, on the error output; the exit code and
the text with the reason are the same (`run_seed_like_validate`).

A phrase that is accepted is stretched as the words make it up, with one space between
neighbours, whatever options stand between them. What is printed for it has two digits for
each of the 64 octets of the seed.
-/

set_option autoImplicit false

namespace MnemonicCode

namespace Octets

theorem length_hex (octets : Octets) : octets.hex.length = 2 * octets.length := by
  rw [hex, String.length_ofList]
  induction octets with
  | nil => rfl
  | cons octet rest ih =>
    rw [List.flatMap_cons, List.length_append, ih, List.length_cons, hexDigits]
    simp only [List.length_cons, List.length_nil]
    omega

/-- Octets are shown with decimal digits and small letters. -/
theorem mem_digits_of_mem_hex {octets : Octets} {c : Char} (member : c ∈ octets.hex.toList) :
    c ∈ "0123456789abcdef".toList := by
  have digits : ∀ value < 16, Nat.digitChar value ∈ "0123456789abcdef".toList := by decide
  obtain ⟨value, small, rfl⟩ := exists_digit_of_mem_hex member
  exact digits value small

end Octets

namespace Seed

/-- What is stretched, and how far. -/
theorem hex_derive (phrase passphrase : String) :
    (derive phrase passphrase).hex = Octets.hex (pbkdf2 (Utf8.encode phrase)
      (Utf8.encode ("mnemonic" ++ passphrase)) 2048 64) := by
  have rounds : stretchingRounds = 2048 := rfl
  have length : seedLength = 64 := rfl
  have stretched : (derive phrase passphrase).octets =
      pbkdf2 (password phrase) (salt passphrase) stretchingRounds seedLength := by
    rw [derive]
  rw [rounds, length] at stretched
  exact congrArg Octets.hex stretched

end Seed

namespace CommandLine

variable {files : File.Access Id} {home : String} {randomness otherRandomness : Randomness}
  {arguments : List String} {items : List Item} {stop : Stop} {settings : Settings}
  {list : WordList}

/-! ## Phrases among the arguments -/

/-- The phrase that the words make up. -/
def phraseIn (items : List Item) : String := Phrase.ofWords (wordsIn items)

/-- The passphrase: the last one among the items, or else the empty one. -/
def passphraseIn (items : List Item) : String := (lastPassphrase items).getD ""

theorem ofArguments_validate_of_reads (reads : Reads arguments items .complete) :
    Request.ofArguments ("validate" :: arguments) =
      .ok ⟨lastPath items, .validate (phraseIn items)⟩ := by
  have plain : IsPlain "validate" := by decide
  have words : (Findings.none.after (.word "validate" :: items)).words.toList =
      "validate" :: wordsIn items := words_after_none _
  rw [ofArguments_of_reads (reads.word plain), Stop.request, Findings.command, words]
  rfl

theorem ofArguments_seed_of_reads (reads : Reads arguments items .complete) :
    Request.ofArguments ("seed" :: arguments) =
      .ok ⟨lastPath items, .seed (phraseIn items) (passphraseIn items)⟩ := by
  have plain : IsPlain "seed" := by decide
  have words : (Findings.none.after (.word "seed" :: items)).words.toList =
      "seed" :: wordsIn items := words_after_none _
  have passphrase : (Findings.none.after (.word "seed" :: items)).passphrase =
      passphraseIn items := Findings.none.passphrase_after _
  rw [ofArguments_of_reads (reads.word plain), Stop.request, Findings.command, words, passphrase]
  rfl

/-! ## Two commands, one end -/

theorem exitCode_printed (text : String) : (printed text).exitCode = 0 := rfl

/-- How a validation and a derivation of a seed end when they are given the same arguments. -/
inductive EndAlike (files : File.Access Id) (home : String) (items : List Item) :
    Stop → Outcome → Outcome → Prop where
  | refused (fault : UsageFault) :
      EndAlike files home items (.refused fault) (failed (.usage fault)) (failed (.usage fault))
  | lacking {stop : Stop} {fault : RunFault} (lacks : Lacks files home (lastPath items) fault) :
      EndAlike files home items stop (failed fault) (failed fault)
  | help {settings : Settings} {list : WordList}
      (configured : Configured files home (lastPath items) settings list) :
      EndAlike files home items .help ⟨0, usage, ""⟩ ⟨0, usage, ""⟩
  | rejected {settings : Settings} {list : WordList} {fault : PhraseFault}
      (configured : Configured files home (lastPath items) settings list)
      (rejected : Phrase.check list (phraseIn items) = .error (.phrase fault)) :
      EndAlike files home items .complete
        ⟨1, line ("invalid: " ++ (Failure.phrase fault).message), ""⟩
        (failed (.failure (.phrase fault)))
  | accepted {settings : Settings} {list : WordList}
      (configured : Configured files home (lastPath items) settings list)
      (accepted : Phrase.check list (phraseIn items) = .ok ()) :
      EndAlike files home items .complete (printed "valid")
        (printed (Seed.derive (phraseIn items) (passphraseIn items)).hex)

/-- **The two commands come to the same end.** -/
theorem endAlike_run (files : File.Access Id) (home : String)
    (randomness otherRandomness : Randomness) (reads : Reads arguments items stop) :
    EndAlike files home items stop (run files home randomness ("validate" :: arguments))
      (run files home otherRandomness ("seed" :: arguments)) := by
  have validatePlain : IsPlain "validate" := by decide
  have seedPlain : IsPlain "seed" := by decide
  cases stop with
  | refused fault =>
    -- a word in front does not change what is refused
    have validateRefused : Request.ofArguments ("validate" :: arguments) = .error fault :=
      ofArguments_of_reads (reads.word validatePlain)
    have seedRefused : Request.ofArguments ("seed" :: arguments) = .error fault :=
      ofArguments_of_reads (reads.word seedPlain)
    rw [run_of_usageFault validateRefused, run_of_usageFault seedRefused]
    exact .refused fault
  | help =>
    have validateAsks : Request.ofArguments ("validate" :: arguments) =
        .ok ⟨lastPath items, .help⟩ := ofArguments_of_reads (reads.word validatePlain)
    have seedAsks : Request.ofArguments ("seed" :: arguments) =
        .ok ⟨lastPath items, .help⟩ := ofArguments_of_reads (reads.word seedPlain)
    rcases configured_or_lacks files home (lastPath items) with
      ⟨settings, list, configured⟩ | ⟨fault, lacks⟩
    · rw [run_of_configured validateAsks configured rfl,
        run_of_configured seedAsks configured rfl]
      exact .help configured
    · rw [run_of_lacks validateAsks lacks, run_of_lacks seedAsks lacks]
      exact .lacking lacks
  | complete =>
    have validateAsks := ofArguments_validate_of_reads reads
    have seedAsks := ofArguments_seed_of_reads reads
    rcases configured_or_lacks files home (lastPath items) with
      ⟨settings, list, configured⟩ | ⟨fault, lacks⟩
    · cases checked : Phrase.check list (phraseIn items) with
      | error cause =>
        obtain ⟨fault, rfl⟩ := Phrase.exists_fault_of_check checked
        rw [run_of_invalid validateAsks configured checked,
          run_of_fails (.phrase seedAsks configured checked)]
        exact .rejected configured checked
      | ok _ =>
        rw [run_of_valid validateAsks configured checked,
          run_of_derived seedAsks configured checked]
        exact .accepted configured checked
    · rw [run_of_lacks validateAsks lacks, run_of_lacks seedAsks lacks]
      exact .lacking lacks

/-- **Validating a phrase and deriving its seed agree.** Both commands are given the same
arguments, whatever these are, over the same files. They exit with the same code. When the
phrase is looked at and rejected, both tell the same reason, the one on the output and the
other on the error output. When no help option is read and both succeed, what is printed for
the seed is one line of 128 hexadecimal digits: the octets that the words, joined by single
spaces, are stretched into with the last passphrase in the salt. -/
theorem run_seed_like_validate (files : File.Access Id) (home : String)
    (randomness otherRandomness : Randomness) (arguments : List String) :
    Outcome.exitCode (run files home randomness ("validate" :: arguments)) =
        Outcome.exitCode (run files home otherRandomness ("seed" :: arguments)) ∧
      ∃ items stop, Reads arguments items stop ∧
        (∀ settings list cause, stop = .complete →
          Configured files home (lastPath items) settings list →
          Phrase.check list (phraseIn items) = .error cause →
          ∃ fault : PhraseFault, cause.message = "invalid mnemonic: " ++ fault.message ∧
            run files home randomness ("validate" :: arguments) =
              Outcome.mk 1 (line ("invalid: " ++ cause.message)) "" ∧
            run files home otherRandomness ("seed" :: arguments) =
              Outcome.mk 1 "" (line ("error: " ++ cause.message))) ∧
        (stop ≠ .help →
          Outcome.exitCode (run files home randomness ("validate" :: arguments)) = 0 →
          Outcome.exitCode (run files home otherRandomness ("seed" :: arguments)) = 0 →
          ∃ seed, seed = Octets.hex (pbkdf2 (Utf8.encode (phraseIn items))
              (Utf8.encode ("mnemonic" ++ passphraseIn items)) 2048 64) ∧
            seed.length = 128 ∧ (∀ c ∈ seed.toList, c ∈ "0123456789abcdef".toList) ∧
            run files home otherRandomness ("seed" :: arguments) =
              Outcome.mk 0 (line seed) "") := by
  obtain ⟨items, stop, reads⟩ := exists_reads arguments
  have ends := endAlike_run files home randomness otherRandomness reads
  generalize run files home randomness ("validate" :: arguments) = validated at ends ⊢
  generalize run files home otherRandomness ("seed" :: arguments) = derived at ends ⊢
  refine ⟨?_, items, stop, reads, ?_, ?_⟩
  · cases ends with
    | refused | lacking | help | rejected => rfl
    | accepted => exact (exitCode_printed _).trans (exitCode_printed _).symm
  · intro settings list cause complete configured rejected
    cases ends with
    | refused | help => cases complete
    | lacking lacks => exact absurd ⟨settings, list, configured⟩ lacks.not_configured
    | @rejected _ _ fault configured' rejected' =>
      obtain ⟨-, rfl⟩ := configured'.unique configured
      cases rejected'.symm.trans rejected
      exact ⟨fault, rfl, rfl, rfl⟩
    | accepted configured' accepted =>
      obtain ⟨-, rfl⟩ := configured'.unique configured
      cases accepted.symm.trans rejected
  · intro noHelp validateSucceeds seedSucceeds
    cases ends with
    | refused | lacking | rejected => cases seedSucceeds
    | help => exact absurd rfl noHelp
    | accepted =>
      rw [Seed.hex_derive]
      refine ⟨_, rfl, ?_, ?_, rfl⟩
      · rw [Octets.length_hex, length_pbkdf2]
      · intro c member
        exact Octets.mem_digits_of_mem_hex member

end CommandLine

end MnemonicCode
