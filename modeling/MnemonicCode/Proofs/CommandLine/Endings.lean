import MnemonicCode.Proofs.CommandLine.Runs
import MnemonicCode.Proofs.Phrase.Drawing
import Mathlib

/-!
# How runs end

There are six reasons for which a run fails (`Fails`) and seven ways in which it ends, with
the conditions of each (`Ends`). Every run ends in one of these ways (`ends_run`), and a
run with a reason to fail fails for it (`run_of_fails`). All that later statements say of
runs is read off these cases.

The first such statement is that a failure keeps everything to itself
(`run_failure_prints_nothing`). A run that exits with 1 has printed nothing on the output,
or one line with the verdict on an invalid phrase; and which octets its source would have
given makes no difference to it.
-/

set_option autoImplicit false

namespace MnemonicCode

/-- The source fills every buffer. -/
def Randomness.Delivers (randomness : Randomness) : Prop :=
  ∀ count buffer, ∃ octets, randomness.fill count buffer = .ok octets

/-- Sources that repeat a pattern fill every buffer. -/
theorem Randomness.delivers_repeating (pattern : Octets) : (repeating pattern).Delivers :=
  fun _ _ => ⟨_, rfl⟩

/-- A text is not checked for any other failure than that of a phrase. -/
theorem Phrase.exists_fault_of_check {list : WordList} {text : String} {cause : Failure}
    (rejected : check list text = .error cause) : ∃ fault, cause = .phrase fault := by
  rw [check, entropy] at rejected
  cases decoded : decode list text with
  | error fault =>
    rw [decoded] at rejected
    cases rejected
    exact ⟨fault, rfl⟩
  | ok octets =>
    rw [decoded] at rejected
    cases rejected

/-- A seed is derived when the check has passed. -/
theorem Phrasebook.seed_eq (book : Phrasebook) (phrase passphrase : String) :
    book.seed phrase passphrase =
      (book.check phrase).map fun _ => Seed.derive phrase passphrase := by
  unfold Phrasebook.seed
  cases book.check phrase <;> rfl

namespace CommandLine

/-! ## The strength of a new phrase -/

section Strengths

variable {settings : Settings} {bits : Option Nat} {strength : Strength}

/-- The strength of a new phrase is the one that is asked for, or else that of the
settings. -/
inductive Chooses (settings : Settings) : Option Nat → Strength → Prop where
  | asked {number : Nat} {strength : Strength} (same : strength.bits = number) :
      Chooses settings (some number) strength
  | unasked : Chooses settings none settings.strength

/-- A strength is chosen unless an illegal number is asked for. -/
theorem exists_chooses_iff :
    (∃ strength, Chooses settings bits strength) ↔
      ∀ asked ∈ bits, asked ∈ [128, 160, 192, 224, 256] := by
  constructor
  · rintro ⟨strength, chosen⟩ asked member
    cases chosen with
    | asked same =>
      cases member
      exact (Strength.exists_bits_eq_iff asked).mp ⟨strength, same⟩
    | unasked => cases member
  · intro legal
    cases bits with
    | none => exact ⟨_, .unasked⟩
    | some asked =>
      obtain ⟨strength, same⟩ := (Strength.exists_bits_eq_iff asked).mpr (legal asked rfl)
      exact ⟨strength, .asked same⟩

theorem newPhrase_of_chooses (chosen : Chooses settings bits strength) (book : Phrasebook) :
    newPhrase settings book bits = book.generate strength := by
  cases chosen with
  | asked same =>
    subst same
    rw [newPhrase, book.generateBits_bits]
  | unasked => rfl

/-- An illegal number is reported before any randomness is asked for. -/
theorem newPhrase_of_illegal {asked : Nat} (illegal : asked ∉ [128, 160, 192, 224, 256])
    (book : Phrasebook) :
    newPhrase settings book (some asked) = .error (.strength asked) := by
  rw [newPhrase, book.generateBits_of_illegal illegal]

end Strengths

/-! ## Endings -/

variable {files : File.Access Id} {home : String} {randomness : Randomness}
  {arguments : List String} {request : Request} {settings : Settings} {list : WordList}
  {fault : RunFault} {outcome : Outcome}

/-- The reasons for which a run fails. -/
inductive Fails (files : File.Access Id) (home : String) (randomness : Randomness)
    (arguments : List String) : RunFault → Prop where
  | usage {fault : UsageFault} (refused : Request.ofArguments arguments = .error fault) :
      Fails files home randomness arguments (.usage fault)
  | settings {request : Request} {fault : Settings.Fault}
      (asks : Request.ofArguments arguments = .ok request)
      (missing : settingsAt files home request.settingsPath = .error fault) :
      Fails files home randomness arguments (.settings request.settingsPath fault)
  | wordList {request : Request} {settings : Settings} {fault : Settings.Fault}
      (asks : Request.ofArguments arguments = .ok request)
      (loaded : settingsAt files home request.settingsPath = .ok settings)
      (missing : settings.wordList files = .error fault) :
      Fails files home randomness arguments (.wordList fault)
  | strength {path : Option String} {asked : Nat} {settings : Settings} {list : WordList}
      (asks : Request.ofArguments arguments = .ok ⟨path, .generate (some asked)⟩)
      (configured : Configured files home path settings list)
      (illegal : asked ∉ [128, 160, 192, 224, 256]) :
      Fails files home randomness arguments (.failure (.strength asked))
  | randomness {path : Option String} {bits : Option Nat} {settings : Settings}
      {list : WordList} {strength : Strength} {cause : Failure}
      (asks : Request.ofArguments arguments = .ok ⟨path, .generate bits⟩)
      (configured : Configured files home path settings list)
      (chosen : Chooses settings bits strength)
      (dry : randomness.fill strength.octets (Vector.replicate strength.octets 0) =
        .error cause) :
      Fails files home randomness arguments (.failure cause)
  | phrase {path : Option String} {phrase passphrase : String} {settings : Settings}
      {list : WordList} {fault : PhraseFault}
      (asks : Request.ofArguments arguments = .ok ⟨path, .seed phrase passphrase⟩)
      (configured : Configured files home path settings list)
      (rejected : Phrase.check list phrase = .error (.phrase fault)) :
      Fails files home randomness arguments (.failure (.phrase fault))

/-- The ways in which a run ends. -/
inductive Ends (files : File.Access Id) (home : String) (randomness : Randomness)
    (arguments : List String) : Outcome → Prop where
  | failed {fault : RunFault} (fails : Fails files home randomness arguments fault) :
      Ends files home randomness arguments (failed fault)
  | generated {path : Option String} {bits : Option Nat} {settings : Settings}
      {list : WordList} {strength : Strength} {octets : Vector UInt8 strength.octets}
      {words : List String}
      (asks : Request.ofArguments arguments = .ok ⟨path, .generate bits⟩)
      (configured : Configured files home path settings list)
      (chosen : Chooses settings bits strength)
      (drawn : randomness.fill strength.octets (Vector.replicate strength.octets 0) =
        .ok octets)
      (spells : Phrase.Spells list octets.toList words) :
      Ends files home randomness arguments ⟨0, line (Phrase.ofWords words), line advice⟩
  | valid {path : Option String} {phrase : String} {settings : Settings} {list : WordList}
      (asks : Request.ofArguments arguments = .ok ⟨path, .validate phrase⟩)
      (configured : Configured files home path settings list)
      (accepted : Phrase.check list phrase = .ok ()) :
      Ends files home randomness arguments (printed "valid")
  | invalid {path : Option String} {phrase : String} {settings : Settings} {list : WordList}
      {fault : PhraseFault}
      (asks : Request.ofArguments arguments = .ok ⟨path, .validate phrase⟩)
      (configured : Configured files home path settings list)
      (rejected : Phrase.check list phrase = .error (.phrase fault)) :
      Ends files home randomness arguments
        ⟨1, line ("invalid: " ++ (Failure.phrase fault).message), ""⟩
  | seed {path : Option String} {phrase passphrase : String} {settings : Settings}
      {list : WordList}
      (asks : Request.ofArguments arguments = .ok ⟨path, .seed phrase passphrase⟩)
      (configured : Configured files home path settings list)
      (accepted : Phrase.check list phrase = .ok ()) :
      Ends files home randomness arguments (printed (Seed.derive phrase passphrase).hex)
  | digest {path : Option String} {settings : Settings} {list : WordList}
      (asks : Request.ofArguments arguments = .ok ⟨path, .digest⟩)
      (configured : Configured files home path settings list) :
      Ends files home randomness arguments (printed list.digest)
  | help {path : Option String} {settings : Settings} {list : WordList}
      (asks : Request.ofArguments arguments = .ok ⟨path, .help⟩)
      (configured : Configured files home path settings list) :
      Ends files home randomness arguments ⟨0, usage, ""⟩

/-! ## Every run ends -/

section Commands

variable {path : Option String} {strength : Strength} {bits : Option Nat}

theorem perform_seed (settings : Settings) (book : Phrasebook) (phrase passphrase : String) :
    perform settings book (.seed phrase passphrase) =
      match book.seed phrase passphrase with
      | .error cause => .error (.failure cause)
      | .ok seed => .ok (printed seed.hex) :=
  rfl

/-- What a run lacks when the settings at the path, or the word list that they ask for, are not
to be had. -/
inductive Lacks (files : File.Access Id) (home : String) (path : Option String) :
    RunFault → Prop where
  | settings {fault : Settings.Fault} (missing : settingsAt files home path = .error fault) :
      Lacks files home path (.settings path fault)
  | wordList {settings : Settings} {fault : Settings.Fault}
      (loaded : settingsAt files home path = .ok settings)
      (missing : settings.wordList files = .error fault) :
      Lacks files home path (.wordList fault)

/-- A run has its settings and its word list or it lacks them. -/
theorem configured_or_lacks (files : File.Access Id) (home : String) (path : Option String) :
    (∃ settings list, Configured files home path settings list) ∨
      ∃ fault, Lacks files home path fault := by
  cases loaded : settingsAt files home path with
  | error fault => exact .inr ⟨_, .settings loaded⟩
  | ok settings =>
    cases found : settings.wordList files with
    | error fault => exact .inr ⟨_, .wordList loaded found⟩
    | ok list => exact .inl ⟨settings, list, loaded, found⟩

theorem Lacks.not_configured {path : Option String} (lacks : Lacks files home path fault) :
    ¬ ∃ settings list, Configured files home path settings list := by
  rintro ⟨settings, list, configured⟩
  cases lacks with
  | settings missing => cases missing.symm.trans configured.settings_eq
  | wordList loaded missing =>
    cases loaded.symm.trans configured.settings_eq
    cases missing.symm.trans configured.list_eq

/-- A run that lacks something fails for it, whatever its command is. -/
theorem run_of_lacks (asks : Request.ofArguments arguments = .ok request)
    (lacks : Lacks files home request.settingsPath fault) :
    run files home randomness arguments = failed fault := by
  rw [run_of_request asks, respond_eq]
  cases lacks with
  | settings missing => rw [missing]
  | wordList loaded missing =>
    rw [loaded]
    simp only [missing]

theorem run_of_refused (asks : Request.ofArguments arguments = .ok request)
    (configured : Configured files home request.settingsPath settings list)
    (refused : perform settings ⟨list, randomness⟩ request.command = .error fault) :
    run files home randomness arguments = failed fault := by
  rw [run_of_request asks, respond_of_configured configured, refused]

theorem Lacks.fails (lacks : Lacks files home request.settingsPath fault)
    (asks : Request.ofArguments arguments = .ok request) :
    Fails files home randomness arguments fault := by
  cases lacks with
  | settings missing => exact .settings asks missing
  | wordList loaded missing => exact .wordList asks loaded missing

/-- **A run with a reason to fail fails for it.** -/
theorem run_of_fails (fails : Fails files home randomness arguments fault) :
    run files home randomness arguments = failed fault := by
  cases fails with
  | usage refused => exact run_of_usageFault refused
  | settings asks missing => exact run_of_lacks asks (.settings missing)
  | wordList asks loaded missing => exact run_of_lacks asks (.wordList loaded missing)
  | strength asks configured illegal =>
    refine run_of_refused asks configured ?_
    rw [perform_generate, newPhrase_of_illegal illegal]
  | randomness asks configured chosen dry =>
    refine run_of_refused asks configured ?_
    rw [perform_generate, newPhrase_of_chooses chosen, Phrasebook.generate_of_dry _ dry]
  | phrase asks configured rejected =>
    refine run_of_refused asks configured ?_
    rw [perform_seed, Phrasebook.seed_eq, Phrasebook.check, rejected]
    rfl

end Commands

/-! The endings of the commands that may fail. -/

section Commands

variable {path : Option String}

theorem ends_of_fails (fails : Fails files home randomness arguments fault) :
    Ends files home randomness arguments (run files home randomness arguments) := by
  rw [run_of_fails fails]
  exact .failed fails

theorem ends_generate {bits : Option Nat}
    (asks : Request.ofArguments arguments = .ok ⟨path, .generate bits⟩)
    (configured : Configured files home path settings list) :
    Ends files home randomness arguments (run files home randomness arguments) := by
  by_cases legal : ∀ asked ∈ bits, asked ∈ [128, 160, 192, 224, 256]
  · obtain ⟨strength, chosen⟩ := exists_chooses_iff.mpr legal
    cases drawn : randomness.fill strength.octets (Vector.replicate strength.octets 0) with
    | error cause => exact ends_of_fails (.randomness asks configured chosen drawn)
    | ok octets =>
      obtain ⟨words, spells, made⟩ := Phrasebook.generate_of_drawn ⟨list, randomness⟩ drawn
      have performed : perform settings ⟨list, randomness⟩ (.generate bits) =
          .ok ⟨0, line (Phrase.ofWords words), line advice⟩ := by
        rw [perform_generate, newPhrase_of_chooses chosen, made]
      rw [run_of_configured asks configured performed]
      exact .generated asks configured chosen drawn spells
  · push Not at legal
    obtain ⟨asked, rfl, illegal⟩ := legal
    exact ends_of_fails (.strength asks configured illegal)

theorem run_of_invalid {phrase : String} {fault : PhraseFault}
    (asks : Request.ofArguments arguments = .ok ⟨path, .validate phrase⟩)
    (configured : Configured files home path settings list)
    (rejected : Phrase.check list phrase = .error (.phrase fault)) :
    run files home randomness arguments =
      Outcome.mk 1 (line ("invalid: " ++ (Failure.phrase fault).message)) "" := by
  refine run_of_configured asks configured ?_
  rw [perform_validate, Phrasebook.check, rejected]

theorem run_of_valid {phrase : String}
    (asks : Request.ofArguments arguments = .ok ⟨path, .validate phrase⟩)
    (configured : Configured files home path settings list)
    (accepted : Phrase.check list phrase = .ok ()) :
    run files home randomness arguments = printed "valid" := by
  refine run_of_configured asks configured ?_
  rw [perform_validate, Phrasebook.check, accepted]

theorem ends_validate {phrase : String}
    (asks : Request.ofArguments arguments = .ok ⟨path, .validate phrase⟩)
    (configured : Configured files home path settings list) :
    Ends files home randomness arguments (run files home randomness arguments) := by
  cases checked : Phrase.check list phrase with
  | error cause =>
    obtain ⟨fault, rfl⟩ := Phrase.exists_fault_of_check checked
    rw [run_of_invalid asks configured checked]
    exact .invalid asks configured checked
  | ok _ =>
    rw [run_of_valid asks configured checked]
    exact .valid asks configured checked

theorem run_of_derived {phrase passphrase : String}
    (asks : Request.ofArguments arguments = .ok ⟨path, .seed phrase passphrase⟩)
    (configured : Configured files home path settings list)
    (accepted : Phrase.check list phrase = .ok ()) :
    run files home randomness arguments = printed (Seed.derive phrase passphrase).hex := by
  refine run_of_configured asks configured ?_
  rw [perform_seed, Phrasebook.seed_eq, Phrasebook.check, accepted]
  rfl

theorem ends_seed {phrase passphrase : String}
    (asks : Request.ofArguments arguments = .ok ⟨path, .seed phrase passphrase⟩)
    (configured : Configured files home path settings list) :
    Ends files home randomness arguments (run files home randomness arguments) := by
  cases checked : Phrase.check list phrase with
  | error cause =>
    obtain ⟨fault, rfl⟩ := Phrase.exists_fault_of_check checked
    exact ends_of_fails (.phrase asks configured checked)
  | ok _ =>
    rw [run_of_derived asks configured checked]
    exact .seed asks configured checked

end Commands

/-- **Every run ends in one of these ways.** -/
theorem ends_run (files : File.Access Id) (home : String) (randomness : Randomness)
    (arguments : List String) :
    Ends files home randomness arguments (run files home randomness arguments) := by
  cases asks : Request.ofArguments arguments with
  | error fault => exact ends_of_fails (.usage asks)
  | ok request =>
    rcases configured_or_lacks files home request.settingsPath with
      ⟨settings, list, configured⟩ | ⟨fault, lacks⟩
    · obtain ⟨path, command⟩ := request
      cases command with
      | generate bits => exact ends_generate asks configured
      | validate phrase => exact ends_validate asks configured
      | seed phrase passphrase => exact ends_seed asks configured
      | digest =>
        rw [run_of_configured asks configured rfl]
        exact .digest asks configured
      | help =>
        rw [run_of_configured asks configured rfl]
        exact .help asks configured
    · exact ends_of_fails (lacks.fails asks)

/-! ## One line -/

/-- The text holds no line feed, so that it is printed on one line. -/
def OneLine (text : String) : Prop := '\n' ∉ text.toList

instance (text : String) : Decidable (OneLine text) :=
  inferInstanceAs (Decidable ('\n' ∉ text.toList))

theorem oneLine_append {left right : String} :
    OneLine (left ++ right) ↔ OneLine left ∧ OneLine right := by
  rw [OneLine, String.toList_append, List.mem_append, not_or]
  rfl

theorem oneLine_numeral (number : Nat) : OneLine (toString number) := by
  intro member
  rw [Nat.toString_eq_repr, Nat.toList_repr] at member
  exact absurd (Nat.isDigit_of_mem_toDigits (by decide) (by decide) member) (by decide)

/-- The reason why a text is no phrase is told on one line. -/
theorem oneLine_message (fault : PhraseFault) : OneLine (Failure.phrase fault).message := by
  have whole : (Failure.phrase fault).message = "invalid mnemonic: " ++ fault.message := rfl
  rw [whole, oneLine_append]
  refine ⟨by decide, ?_⟩
  cases fault with
  | wordCount count =>
    have text : (PhraseFault.wordCount count).message =
        "unsupported word count " ++ toString count := rfl
    rw [text, oneLine_append]
    exact ⟨by decide, oneLine_numeral count⟩
  | unknownWord position =>
    have text : (PhraseFault.unknownWord position).message =
        "word " ++ toString (position + 1) ++ " is not in the wordlist" := rfl
    rw [text, oneLine_append, oneLine_append]
    exact ⟨⟨by decide, oneLine_numeral (position + 1)⟩, by decide⟩
  | checksum => decide

/-! ## Failures -/

/-- A source that fills every buffer is no reason to fail, so that another source changes
nothing about the failure. -/
theorem Fails.of_delivers (fails : Fails files home randomness arguments fault)
    (delivers : randomness.Delivers) (other : Randomness) :
    Fails files home other arguments fault := by
  cases fails with
  | usage refused => exact .usage refused
  | settings asks missing => exact .settings asks missing
  | wordList asks loaded missing => exact .wordList asks loaded missing
  | strength asks configured illegal => exact .strength asks configured illegal
  | randomness asks configured chosen dry =>
    obtain ⟨octets, drawn⟩ := delivers _ _
    rw [dry] at drawn
    cases drawn
  | phrase asks configured rejected => exact .phrase asks configured rejected

theorem not_generates {path : Option String} {command : Command}
    (asks : Request.ofArguments arguments = .ok ⟨path, command⟩)
    (other : ∀ bits, command ≠ .generate bits) :
    ¬ ∃ path bits, Request.ofArguments arguments = .ok ⟨path, .generate bits⟩ := by
  rintro ⟨path', bits, generates⟩
  cases asks.symm.trans generates
  exact other bits rfl

/-- **A run that fails keeps everything to itself.** The exit code is 0 or 1. When it is 1,
there was a reason to fail and nothing is on the output, or a phrase was validated and the
output is the one line that tells why it is invalid, with nothing on the error output; and
the run would have left the same behind with any other source, unless it was the source
that failed. When it is 0, the error output is the advice that goes with a new phrase, and
nothing after any other command. -/
theorem run_failure_prints_nothing (files : File.Access Id) (home : String)
    (randomness : Randomness) (arguments : List String) :
    (Outcome.exitCode (run files home randomness arguments) = 0 ∨
      Outcome.exitCode (run files home randomness arguments) = 1) ∧
    (Outcome.exitCode (run files home randomness arguments) = 1 →
      (Outcome.output (run files home randomness arguments) = "" ∧
        ∃ fault, Fails files home randomness arguments fault ∧
          run files home randomness arguments = failed fault) ∨
      ∃ path phrase settings list fault,
        Request.ofArguments arguments = .ok ⟨path, .validate phrase⟩ ∧
        Configured files home path settings list ∧
        Phrase.check list phrase = .error (.phrase fault) ∧
        OneLine (Failure.phrase fault).message ∧
        run files home randomness arguments =
          Outcome.mk 1 (line ("invalid: " ++ (Failure.phrase fault).message)) "") ∧
    (Outcome.exitCode (run files home randomness arguments) = 1 → randomness.Delivers →
      ∀ other, run files home other arguments = run files home randomness arguments) ∧
    (Outcome.exitCode (run files home randomness arguments) = 0 →
      ((∃ path bits, Request.ofArguments arguments = .ok ⟨path, .generate bits⟩) →
        Outcome.errors (run files home randomness arguments) = line advice) ∧
      ((∀ path bits, Request.ofArguments arguments ≠ .ok ⟨path, .generate bits⟩) →
        Outcome.errors (run files home randomness arguments) = "")) := by
  have ends := ends_run files home randomness arguments
  generalize run files home randomness arguments = outcome at ends ⊢
  cases ends with
  | @failed fault fails =>
    refine ⟨.inr rfl, ?_, ?_, nofun⟩
    · intro _
      exact .inl ⟨rfl, fault, fails, rfl⟩
    · intro _ delivers other
      exact run_of_fails (fails.of_delivers delivers other)
  | @invalid path phrase settings list fault asks configured rejected =>
    refine ⟨.inr rfl, ?_, ?_, nofun⟩
    · intro _
      exact .inr ⟨path, phrase, settings, list, fault, asks, configured, rejected,
        oneLine_message fault, rfl⟩
    · intro _ _ other
      exact run_of_invalid asks configured rejected
  | @generated path bits settings list strength octets words asks =>
    refine ⟨.inl rfl, nofun, nofun, ?_⟩
    intro _
    exact ⟨fun _ => rfl, fun none => absurd asks (none path bits)⟩
  | valid asks | seed asks | digest asks | help asks =>
    refine ⟨.inl rfl, nofun, nofun, ?_⟩
    intro _
    exact ⟨fun generates => absurd generates (not_generates asks nofun), fun _ => rfl⟩

end CommandLine

end MnemonicCode
