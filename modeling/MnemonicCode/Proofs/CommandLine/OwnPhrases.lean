import MnemonicCode.Proofs.CommandLine.Runs
import MnemonicCode.Proofs.CommandLine.Scanning
import MnemonicCode.Proofs.Phrase.RoundTrip
import MnemonicCode.Proofs.Seed.Spacing
import MnemonicCode.Proofs.Settings.RoundTrip
import MnemonicCode.Proofs.WordList.Pin
import Mathlib

/-!
# Validating new phrases

A phrase that one run prints is valid for every later run with the same settings and
files, when its words are given as arguments and none of them begins with a hyphen
(`run_validate_own_phrase`). The condition is needed: a word list may have words with a
hyphen in front, and the scan takes such an argument for an option before it is looked
for in the list (`run_validate_hyphenated`).
-/

set_option autoImplicit false

namespace MnemonicCode.CommandLine

variable {randomness : Randomness} {settings : Settings} {list : WordList}

/-! ## New phrases -/

/-- New phrases spell the entropy that they were made of. -/
theorem exists_spells_of_newPhrase {bits : Option Nat} {phrase : String}
    (made : newPhrase settings ⟨list, randomness⟩ bits = .ok phrase) :
    ∃ octets words, Phrase.Spells list octets words ∧ Phrase.ofWords words = phrase := by
  have generated : ∀ strength, Phrasebook.generate ⟨list, randomness⟩ strength = .ok phrase →
      ∃ octets words, Phrase.Spells list octets words ∧ Phrase.ofWords words = phrase := by
    intro strength made
    rw [Phrasebook.generate] at made
    split at made
    · cases made
    · exact ⟨_, Phrase.encode_eq_ok_iff.mp made⟩
  cases bits with
  | none => exact generated settings.strength made
  | some bits =>
    rw [newPhrase, Phrasebook.generateBits] at made
    split at made
    · cases made
    · exact generated _ made

/-- What is printed for a new phrase. -/
theorem exists_spells_of_perform {bits : Option Nat} {outcome : Outcome}
    (performed : perform settings ⟨list, randomness⟩ (.generate bits) = .ok outcome) :
    ∃ octets words, Phrase.Spells list octets words ∧
      outcome = ⟨0, line (Phrase.ofWords words), line advice⟩ := by
  rw [perform_generate] at performed
  split at performed
  · cases performed
  · next phrase made =>
    obtain ⟨octets, words, spells, rfl⟩ := exists_spells_of_newPhrase made
    cases performed
    exact ⟨octets, words, spells, rfl⟩

/-- Words that spell octets are valid, whatever the randomness of the run. -/
theorem perform_validate_of_spells {octets : Octets} {words : List String}
    (spells : Phrase.Spells list octets words) :
    perform settings ⟨list, randomness⟩ (.validate (Phrase.ofWords words)) =
      .ok (printed "valid") := by
  have valid : Phrasebook.check ⟨list, randomness⟩ (Phrase.ofWords words) = .ok () := by
    refine Phrase.check_eq_ok_iff.mpr ⟨octets, ?_⟩
    rwa [spells.words_ofWords]
  rw [perform_validate, valid]

/-! ## A list in a file -/

/-- Settings that ask for the list in `words.txt`. -/
def ownSettings : Settings := ⟨.bits128, .file "words.txt" none⟩

/-- Files with these settings and this list. -/
def shelf (list : WordList) : File.Access Id where
  isPresent path := path == "config.json" || path == "words.txt"
  read path :=
    if path = "config.json" then .ok (Utf8.encode ownSettings.compact)
    else if path = "words.txt" then .ok (Utf8.encode list.text)
    else .error .notFound

theorem configured_shelf (home : String) (list : WordList) :
    Configured (shelf list) home (some "config.json") ownSettings list where
  settings_eq := Settings.ofContent_encode (Settings.ofText_written ownSettings).1 "config.json"
  list_eq := by
    have read : WordList.ofOctets "words.txt" none (Utf8.encode list.text) = .ok list :=
      WordList.ofOctets_none_eq_ok_iff.mpr ⟨list.text, rfl, list.ofText_text⟩
    change Except.mapError _ (WordList.ofOctets "words.txt" none (Utf8.encode list.text)) = _
    rw [read]
    rfl

/-- Randomness that gives zeros. -/
def zeros : Randomness := .repeating []

/-- The phrase for zeros is printed over every list. -/
theorem run_generate_shelf (home : String) {list : WordList} {words : List String}
    (spells : Phrase.Spells list (List.replicate 16 0) words) :
    run (shelf list) home zeros ["--config", "config.json", "generate"] =
      Outcome.mk 0 (line (Phrase.ofWords words)) (line advice) := by
  have asks : Request.ofArguments ["--config", "config.json", "generate"] =
      .ok ⟨some "config.json", .generate none⟩ := by decide
  have encoded : Phrase.encode list (List.replicate 16 0) = .ok (Phrase.ofWords words) :=
    Phrase.encode_eq_ok_iff.mpr ⟨words, spells, rfl⟩
  have made : newPhrase ownSettings ⟨list, zeros⟩ none =
      Phrase.encode list (List.replicate 16 0) := rfl
  refine run_of_configured asks (configured_shelf home list) ?_
  rw [perform_generate, made, encoded]

/-! ## Two runs -/

/-- **A new phrase whose words do not begin with a hyphen is valid as arguments.** A run
that exits with 0 after a request for a new phrase has printed one. A second run over the
same files that is given its words finds it valid, unless one of them begins with a
hyphen. When the first of those that do is no option, the second run fails and names it. -/
theorem run_validate_own_phrase (files : File.Access Id) (home : String)
    (randomness : Randomness) {arguments : List String} {path : String} {bits : Option Nat}
    (asks : Request.ofArguments arguments = .ok ⟨some path, .generate bits⟩)
    (success : Outcome.exitCode (run files home randomness arguments) = 0) :
    ∃ phrase, run files home randomness arguments = Outcome.mk 0 (line phrase) (line advice) ∧
      ((∀ word ∈ Text.words phrase, IsPlain word) → ∀ home randomness,
        run files home randomness (validateArguments path (Text.words phrase)) =
          Outcome.mk 0 (line "valid") "") ∧
      (∀ before word after, Text.words phrase = before ++ word :: after →
        (∀ earlier ∈ before, IsPlain earlier) → ¬ IsPlain word → word ∉ options →
        ∀ home randomness,
          run files home randomness (validateArguments path (Text.words phrase)) =
            Outcome.mk 1 "" (line ("error: unknown option " ++ word))) := by
  obtain ⟨settings, list, configured, performed⟩ := exists_perform_of_exitCode asks success
  obtain ⟨octets, words, spells, outcome⟩ := exists_spells_of_perform performed
  refine ⟨Phrase.ofWords words, outcome, ?_, ?_⟩
  · rw [spells.words_ofWords]
    intro plain home' randomness'
    -- a path that is given leads to the same settings whatever the home directory
    have again : Configured files home' (some path) settings list :=
      ⟨configured.settings_eq, configured.list_eq⟩
    exact run_of_configured (ofArguments_validate path plain) again
      (perform_validate_of_spells spells)
  · rw [spells.words_ofWords]
    rintro before word after rfl plain hyphen other home' randomness'
    exact run_of_usageFault (ofArguments_validate_unknown path plain hyphen other after)

theorem run_validate_own_phrase_zeros :
    Request.ofArguments ["--config", "config.json", "generate"] =
        .ok ⟨some "config.json", .generate none⟩ ∧
      Outcome.exitCode (run (shelf WordList.english) "" zeros
        ["--config", "config.json", "generate"]) = 0 ∧
      run (shelf WordList.english) "" zeros
          (validateArguments "config.json" Phrasebook.zeroWords) =
        Outcome.mk 0 (line "valid") "" := by
  have asks : Request.ofArguments ["--config", "config.json", "generate"] =
      .ok ⟨some "config.json", .generate none⟩ := by decide
  have spells := Phrasebook.spells_zeroWords
  have printed := run_generate_shelf "" spells
  have success : Outcome.exitCode (run (shelf WordList.english) "" zeros
      ["--config", "config.json", "generate"]) = 0 := by
    rw [printed]
  obtain ⟨phrase, outcome, valid, -⟩ :=
    run_validate_own_phrase (shelf WordList.english) "" zeros asks success
  have same : phrase = Phrase.ofWords Phrasebook.zeroWords :=
    line_inj.mp (congrArg Outcome.output (outcome.symm.trans printed))
  have words : Text.words phrase = Phrasebook.zeroWords := by rw [same, spells.words_ofWords]
  have plain : ∀ word ∈ Phrasebook.zeroWords, IsPlain word := by decide
  rw [words] at valid
  exact ⟨asks, success, valid plain "" zeros⟩

/-! ## Words with a hyphen in front -/

/-- The standard English list with a hyphen before its first word. -/
def hyphenatedEntries : List String := "-abandon" :: WordList.english.entries.tail

theorem wellFormed_hyphenatedEntries : WordList.WellFormed hyphenatedEntries := by
  have standard := WordList.english.wellFormed
  -- the standard words are spelled with letters only
  have fresh : "-abandon" ∉ WordList.english.entries := fun member =>
    absurd (WordList.areLowerCase_of_mem WordList.areAscending_englishEntries _ member)
      (by decide +kernel)
  constructor
  · rw [hyphenatedEntries, List.length_cons, List.length_tail, standard.length_eq]
    rfl
  · intro entry member
    rcases List.mem_cons.mp member with rfl | later
    · decide
    · exact standard.nonempty entry (List.mem_of_mem_tail later)
  · intro entry member
    rcases List.mem_cons.mp member with rfl | later
    · have spelled : "-abandon".toList = '-' :: "abandon".toList := rfl
      rw [spelled]
      refine List.forall_mem_cons.mpr ⟨by decide, ?_⟩
      exact standard.visible "abandon" List.mem_cons_self
    · exact standard.visible entry (List.mem_of_mem_tail later)
  · exact List.nodup_cons.mpr ⟨fun later => fresh (List.mem_of_mem_tail later),
      standard.nodup.tail⟩

/-- The list with these entries. -/
def hyphenated : WordList := WordList.ofWellFormed hyphenatedEntries wellFormed_hyphenatedEntries

/-- The words for 128 zero bits. -/
def hyphenatedWords : List String := List.replicate 11 "-abandon" ++ ["about"]

theorem spells_hyphenatedWords :
    Phrase.Spells hyphenated (List.replicate 16 0) hyphenatedWords := by
  refine ⟨.bits128, rfl, ?_⟩
  rw [Phrasebook.values_zero]
  decide +kernel

/-- **A new phrase may be refused as arguments.** Over a list with a hyphen before its
first word, the phrase for zeros is printed, and the run that is given its words takes the
first one for an option. -/
theorem run_validate_hyphenated :
    run (shelf hyphenated) "" zeros ["--config", "config.json", "generate"] =
        Outcome.mk 0 (line (Phrase.ofWords hyphenatedWords)) (line advice) ∧
      Text.words (Phrase.ofWords hyphenatedWords) = hyphenatedWords ∧
      run (shelf hyphenated) "" zeros (validateArguments "config.json" hyphenatedWords) =
        Outcome.mk 1 "" (line "error: unknown option -abandon") := by
  have spells := spells_hyphenatedWords
  refine ⟨run_generate_shelf "" spells, spells.words_ofWords, ?_⟩
  have hyphen : ¬ IsPlain "-abandon" := by decide
  have other : "-abandon" ∉ options := by decide
  have refused : Request.ofArguments (validateArguments "config.json" hyphenatedWords) =
      .error (.unknownOption "-abandon") :=
    ofArguments_validate_unknown "config.json" (List.forall_mem_nil IsPlain) hyphen other
      (List.replicate 10 "-abandon" ++ ["about"])
  exact run_of_usageFault refused

end MnemonicCode.CommandLine
