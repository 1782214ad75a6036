import MnemonicCode.Proofs.CommandLine.Endings
import MnemonicCode.Proofs.CommandLine.OwnPhrases
import MnemonicCode.Proofs.CommandLine.Readings
import MnemonicCode.Proofs.Settings.Acceptance
import Mathlib

/-!
# Generating phrases

A run that is asked for a new phrase over a source that fills every buffer succeeds exactly
when its settings and its word list are there and no illegal number of bits is asked for
(`run_generate`). It then prints one line, with a phrase that decodes to the octets that
the source gave (`IsPhraseFor`). The strength is given by the last number of bits among the
arguments, or else by the settings that apply, or else it is 128 bits (`StrengthFor`).

The settings that apply are those in the file at the last path among the arguments. When no
path is given they are those in the default file, if it is there (`settingsFile?`). So the
strength is followed from the text of the arguments and of this file to the number of words.
-/

set_option autoImplicit false

namespace MnemonicCode.CommandLine

variable {files : File.Access Id} {home : String} {randomness : Randomness}
  {arguments : List String} {path : Option String} {settings : Settings} {list : WordList}

/-! ## The strength -/

/-- The file whose settings apply, if there is one. -/
def settingsFile? (files : File.Access Id) (home : String) : Option String → Option String
  | some path => some path
  | none =>
    if (files.isPresent (Settings.defaultPath home)).run then some (Settings.defaultPath home)
    else none

/-- The strength in the settings that apply. -/
inductive StandingStrength (files : File.Access Id) (home : String) (path : Option String) :
    Strength → Prop where
  | absent (none : settingsFile? files home path = none) :
      StandingStrength files home path .bits128
  | given {file text : String} {octets : Octets} {value : Json} {strength : Strength}
      (found : settingsFile? files home path = some file)
      (content : files.read file = .ok octets) (decoded : Utf8.decode octets = .ok text)
      (parsed : Json.parse text = .ok value)
      (named : Settings.GivesStrength (Settings.strengthValues value) strength) :
      StandingStrength files home path strength

/-- The strength of a new phrase: the one that is asked for, or else the one in the settings
that apply. -/
inductive StrengthFor (files : File.Access Id) (home : String) (path : Option String) :
    Option Nat → Strength → Prop where
  | asked {number : Nat} {strength : Strength} (same : strength.bits = number) :
      StrengthFor files home path (some number) strength
  | unasked {strength : Strength} (standing : StandingStrength files home path strength) :
      StrengthFor files home path none strength

/-- Settings that are loaded are those in the text of the file. -/
theorem standingStrength_of_load {file : String}
    (found : settingsFile? files home path = some file)
    (loaded : Settings.load files file = .ok settings) :
    StandingStrength files home path settings.strength := by
  obtain ⟨octets, text, content, decoded, accepted⟩ := Settings.exists_text_of_ofContent loaded
  obtain ⟨value, parsed, read⟩ := Settings.exists_parse_of_ofText accepted
  exact .given found content decoded parsed (Settings.givesStrength_of_ofJson read)

/-- The strength of the settings is the standing one. -/
theorem standingStrength_of_settingsAt (loaded : settingsAt files home path = .ok settings) :
    StandingStrength files home path settings.strength := by
  cases path with
  | some path => exact standingStrength_of_load rfl loaded
  | none =>
    change (if (files.isPresent (Settings.defaultPath home)).run = true then
      Settings.load files (Settings.defaultPath home) else .ok Settings.standard) = _ at loaded
    split at loaded
    · next present => exact standingStrength_of_load (if_pos present) loaded
    · next missing =>
      cases loaded
      exact .absent (if_neg missing)

theorem strengthFor_of_chooses {bits : Option Nat} {strength : Strength}
    (loaded : settingsAt files home path = .ok settings)
    (chosen : Chooses settings bits strength) : StrengthFor files home path bits strength := by
  cases chosen with
  | asked same => exact .asked same
  | unasked => exact .unasked (standingStrength_of_settingsAt loaded)

/-! ## The phrase -/

/-- The text is one line with a phrase of the given strength for the octets. -/
structure IsPhraseFor (list : WordList) (strength : Strength) (octets : Octets)
    (text : String) : Prop where
  oneLine : OneLine text
  count : (Text.words text).length = strength.wordCount
  listed : ∀ word ∈ Text.words text, word ∈ list.entries
  valid : Phrase.check list text = .ok ()
  decodes : Phrase.entropy list text = .ok octets

/-- Words that spell octets make a phrase for them. -/
theorem isPhraseFor_of_spells {strength : Strength} {octets : Octets} {words : List String}
    (spells : Phrase.Spells list octets words) (length : octets.length = strength.octets) :
    IsPhraseFor list strength octets (Phrase.ofWords words) := by
  have cut := spells.words_ofWords
  have back : Phrase.Spells list octets (Text.words (Phrase.ofWords words)) := by rwa [cut]
  refine ⟨?_, ?_, back.mem_entries, ?_, ?_⟩
  · intro lineFeed
    rcases Text.mem_intercalate lineFeed with space | ⟨word, member, inside⟩
    · exact absurd space (by decide)
    · have solid := (spells.isWord word member).solid _ inside
      exact absurd solid (by decide)
  · rw [cut, spells.length_words length]
  · exact Phrase.check_eq_ok_iff.mpr ⟨octets, back⟩
  · exact Phrase.entropy_eq_ok_iff.mpr back

/-! ## The run -/

section Run

variable {bits : Option Nat} {fault : RunFault}

/-- A run that is asked for a new phrase has no other reason to fail than missing settings,
a missing word list or an illegal number of bits, if its source fills every buffer. -/
theorem Fails.not_ready (fails : Fails files home randomness arguments fault)
    (delivers : randomness.Delivers)
    (asks : Request.ofArguments arguments = .ok ⟨path, .generate bits⟩) :
    ¬ ((∃ settings list, Configured files home path settings list) ∧
      ∀ asked ∈ bits, asked ∈ [128, 160, 192, 224, 256]) := by
  rintro ⟨⟨settings, list, configured⟩, legal⟩
  cases fails with
  | usage refused => cases refused.symm.trans asks
  | settings asks' missing =>
    cases asks'.symm.trans asks
    cases missing.symm.trans configured.settings_eq
  | wordList asks' loaded missing =>
    cases asks'.symm.trans asks
    cases loaded.symm.trans configured.settings_eq
    cases missing.symm.trans configured.list_eq
  | @strength _ asked _ _ asks' _ illegal =>
    cases asks'.symm.trans asks
    exact illegal (legal asked rfl)
  | randomness _ _ _ dry =>
    obtain ⟨octets, drawn⟩ := delivers _ _
    cases dry.symm.trans drawn
  | phrase asks' => cases asks'.symm.trans asks

end Run

/-- **A new phrase from the arguments to the line that is printed.** The source fills every
buffer, and the arguments ask for a new phrase; the path and the number of bits are the last
ones among them. The run exits with 0 exactly when the settings and the word list are there
and no illegal number is asked for. Then it prints one line with a phrase of the strength
that applies, made of words of the list, which is valid and decodes to the octets that were
drawn. Otherwise it exits with 1 and prints nothing on the output. -/
theorem run_generate (files : File.Access Id) (home : String) {randomness : Randomness}
    (delivers : randomness.Delivers) {arguments : List String} {path : Option String}
    {bits : Option Nat} (asks : Request.ofArguments arguments = .ok ⟨path, .generate bits⟩) :
    (∃ items, SpellsItems arguments items ∧ path = lastPath items ∧ bits = lastBits items) ∧
    (Outcome.exitCode (run files home randomness arguments) = 0 ↔
      (∃ settings list, Configured files home path settings list) ∧
        ∀ asked ∈ bits, asked ∈ [128, 160, 192, 224, 256]) ∧
    (Outcome.exitCode (run files home randomness arguments) = 0 →
      ∃ settings list strength octets phrase, Configured files home path settings list ∧
        StrengthFor files home path bits strength ∧
        randomness.fill strength.octets (Vector.replicate strength.octets 0) = .ok octets ∧
        IsPhraseFor list strength octets.toList phrase ∧
        run files home randomness arguments = Outcome.mk 0 (line phrase) (line advice)) ∧
    (Outcome.exitCode (run files home randomness arguments) ≠ 0 →
      Outcome.exitCode (run files home randomness arguments) = 1 ∧
        Outcome.output (run files home randomness arguments) = "") := by
  obtain ⟨items, spelled, -, lastPath, lastBits⟩ := ofArguments_eq_generate_iff.mp asks
  refine ⟨⟨items, spelled, lastPath, lastBits⟩, ?_⟩
  have ends := ends_run files home randomness arguments
  generalize run files home randomness arguments = outcome at ends ⊢
  cases ends with
  | failed fails =>
    have lacking := fails.not_ready delivers asks
    refine ⟨⟨nofun, ?_⟩, nofun, ?_⟩
    · intro ready
      exact absurd ready lacking
    · intro _
      exact ⟨rfl, rfl⟩
  | @generated _ _ settings list strength octets words asks' configured chosen drawn spells =>
    cases asks'.symm.trans asks
    refine ⟨⟨?_, fun _ => rfl⟩, ?_, fun failed => absurd rfl failed⟩
    · intro _
      exact ⟨⟨settings, list, configured⟩, exists_chooses_iff.mp ⟨strength, chosen⟩⟩
    · intro _
      have strengthFor := strengthFor_of_chooses configured.settings_eq chosen
      have phrase := isPhraseFor_of_spells spells Vector.length_toList
      exact ⟨settings, list, strength, octets, Phrase.ofWords words, configured, strengthFor,
        drawn, phrase, rfl⟩
  | valid asks' | invalid asks' | seed asks' | digest asks' | help asks' =>
    cases asks'.symm.trans asks

theorem run_generate_last :
    (Randomness.repeating [0x7f]).Delivers ∧
      Request.ofArguments
          ["-b", "256", "-c", "lost.json", "generate", "-c", "config.json", "-b", "+160"] =
        .ok ⟨some "config.json", .generate (some 160)⟩ ∧
      ∃ phrase, run (shelf WordList.english) "" (.repeating [0x7f])
            ["-b", "256", "-c", "lost.json", "generate", "-c", "config.json", "-b", "+160"] =
          Outcome.mk 0 (line phrase) (line advice) ∧
        (Text.words phrase).length = 15 ∧
        Phrase.entropy WordList.english phrase = .ok (List.replicate 20 0x7f) := by
  have delivers := Randomness.delivers_repeating [0x7f]
  have asks : Request.ofArguments
      ["-b", "256", "-c", "lost.json", "generate", "-c", "config.json", "-b", "+160"] =
        .ok ⟨some "config.json", .generate (some 160)⟩ := by decide
  have there := configured_shelf "" WordList.english
  obtain ⟨-, ready, success, -⟩ := run_generate (shelf WordList.english) "" delivers asks
  have legal : ∀ asked ∈ some 160, asked ∈ [128, 160, 192, 224, 256] := by decide
  obtain ⟨settings, list, strength, octets, phrase, configured, strengthFor, drawn, made,
    printed⟩ := success (ready.mpr ⟨⟨ownSettings, WordList.english, there⟩, legal⟩)
  obtain ⟨-, rfl⟩ := configured.unique there
  cases strengthFor with
  | asked same =>
    have found := strength.ofBits_bits
    rw [same] at found
    cases found
    cases drawn
    exact ⟨delivers, asks, phrase, printed, made.count, made.decodes⟩

end MnemonicCode.CommandLine
