import MnemonicCode.Proofs.CommandLine.Endings
import MnemonicCode.Proofs.CommandLine.OwnPhrases
import MnemonicCode.Proofs.Phrase.Verdict
import Mathlib

/-!
# Phrases that are rejected

Of a phrase that is rejected, a run tells the reason and nothing else. Two runs over the
same files with the same path of the settings, both of which validate their phrases or both
of which ask for their seeds, leave the same behind when the phrases are rejected for the
same reason (`run_rejected_eq`). Neither the words nor the passphrases make a difference,
nor how the arguments are arranged.

A run that lacks its settings or its word list does not come to look at its command, so
there is nothing to tell apart either (`exists_fault_of_unconfigured`).
-/

set_option autoImplicit false

namespace MnemonicCode.CommandLine

variable {files : File.Access Id} {home : String} {path : Option String}

/-! ## Runs without settings -/

/-- Without settings or a word list, all runs with the same path fail alike, whatever
their commands are. -/
theorem exists_fault_of_unconfigured
    (none : ¬ ∃ settings list, Configured files home path settings list) :
    ∃ fault, ∀ randomness arguments command,
      Request.ofArguments arguments = .ok ⟨path, command⟩ →
        run files home randomness arguments = failed fault := by
  rcases configured_or_lacks files home path with there | ⟨fault, lacks⟩
  · exact absurd there none
  · exact ⟨fault, fun _ _ _ asks => run_of_lacks asks lacks⟩

/-! ## Rejections -/

/-- Two commands that check a phrase to the same end, the one `left` and the other
`right`. Their passphrases may differ. -/
inductive CheckAlike (left right : String) : Command → Command → Prop where
  | validate : CheckAlike left right (.validate left) (.validate right)
  | seed (passphrase other : String) :
      CheckAlike left right (.seed left passphrase) (.seed right other)

/-- What a command leaves behind when its phrase is rejected: for `validate` that is a
result, for the others a failure. -/
def Command.rejection (fault : PhraseFault) : Command → Outcome
  | .validate _ => ⟨1, line ("invalid: " ++ (Failure.phrase fault).message), ""⟩
  | _ => failed (.failure (.phrase fault))

/-- **Runs with phrases that are rejected for the same reason leave the same behind.** With
the settings and the word list there, it is the rejection for this reason. -/
theorem run_rejected_eq (files : File.Access Id) (home : String)
    (randomness otherRandomness : Randomness) {arguments otherArguments : List String}
    {path : Option String} {command otherCommand : Command} {left right : String}
    {fault : PhraseFault}
    (asks : Request.ofArguments arguments = .ok ⟨path, command⟩)
    (otherAsks : Request.ofArguments otherArguments = .ok ⟨path, otherCommand⟩)
    (alike : CheckAlike left right command otherCommand)
    (rejected : ∀ settings list, Configured files home path settings list →
      Phrase.check list left = .error (.phrase fault) ∧
        Phrase.check list right = .error (.phrase fault)) :
    run files home randomness arguments = run files home otherRandomness otherArguments ∧
      ∀ settings list, Configured files home path settings list →
        run files home randomness arguments = command.rejection fault := by
  have configuredCase : ∀ settings list, Configured files home path settings list →
      run files home randomness arguments = command.rejection fault ∧
        run files home otherRandomness otherArguments = command.rejection fault := by
    intro settings list configured
    obtain ⟨rejectedLeft, rejectedRight⟩ := rejected settings list configured
    cases alike with
    | validate =>
      exact ⟨run_of_invalid asks configured rejectedLeft,
        run_of_invalid otherAsks configured rejectedRight⟩
    | seed passphrase other =>
      exact ⟨run_of_fails (.phrase asks configured rejectedLeft),
        run_of_fails (.phrase otherAsks configured rejectedRight)⟩
  refine ⟨?_, fun settings list configured => (configuredCase settings list configured).1⟩
  by_cases there : ∃ settings list, Configured files home path settings list
  · obtain ⟨settings, list, configured⟩ := there
    obtain ⟨leaves, otherLeaves⟩ := configuredCase settings list configured
    rw [leaves, otherLeaves]
  · obtain ⟨lacking, fails⟩ := exists_fault_of_unconfigured there
    rw [fails randomness arguments command asks,
      fails otherRandomness otherArguments otherCommand otherAsks]

/-! ## Two rejections -/

/-- Twelve words, of which the first is no English one. -/
def loudWords : List String := "ABANDON" :: List.replicate 11 "abandon"

/-- Fifteen words, of which the first is no English one. -/
def strangeWords : List String := "zażółć" :: List.replicate 14 "zoo"

/-- A first word with another character than small letters is reported over the English
list. -/
theorem check_english_of_head {text first : String} {rest : List String}
    (cut : Text.words text = first :: rest)
    (strange : ¬ WordList.areLowerCase (Utf8.encode first) = true)
    (legal : (first :: rest).length ∈ [12, 15, 18, 21, 24]) :
    Phrase.check WordList.english text = .error (.phrase (.unknownWord 0)) := by
  have unknown : first ∉ WordList.english.entries := fun member =>
    strange (WordList.areLowerCase_of_mem WordList.areAscending_englishEntries first member)
  rw [Phrase.check_eq_error_iff, Phrase.decode_eq_iff, Phrase.verdict_unknownWord_iff, cut]
  exact ⟨legal, ⟨first, rfl, unknown⟩, fun _ _ => Nat.zero_le _⟩

theorem run_rejected_eq_english :
    Request.ofArguments (["-p", "tango", "-c", "config.json", "seed"] ++ loudWords) =
        .ok ⟨some "config.json", .seed (Phrase.ofWords loudWords) "tango"⟩ ∧
      Request.ofArguments ("seed" :: strangeWords ++ ["--config", "config.json"]) =
        .ok ⟨some "config.json", .seed (Phrase.ofWords strangeWords) ""⟩ ∧
      run (shelf WordList.english) "" zeros
          (["-p", "tango", "-c", "config.json", "seed"] ++ loudWords) =
        run (shelf WordList.english) "" zeros
          ("seed" :: strangeWords ++ ["--config", "config.json"]) := by
  have asks : Request.ofArguments (["-p", "tango", "-c", "config.json", "seed"] ++ loudWords) =
      .ok ⟨some "config.json", .seed (Phrase.ofWords loudWords) "tango"⟩ := by decide +kernel
  have otherAsks : Request.ofArguments ("seed" :: strangeWords ++ ["--config", "config.json"]) =
      .ok ⟨some "config.json", .seed (Phrase.ofWords strangeWords) ""⟩ := by decide +kernel
  have cut : Text.words (Phrase.ofWords loudWords) = loudWords := by decide +kernel
  have otherCut : Text.words (Phrase.ofWords strangeWords) = strangeWords := by decide +kernel
  have rejected : ∀ settings list,
      Configured (shelf WordList.english) "" (some "config.json") settings list →
        Phrase.check list (Phrase.ofWords loudWords) = .error (.phrase (.unknownWord 0)) ∧
          Phrase.check list (Phrase.ofWords strangeWords) = .error (.phrase (.unknownWord 0)) := by
    intro settings list configured
    obtain ⟨rfl, rfl⟩ := configured.unique (configured_shelf "" WordList.english)
    exact ⟨check_english_of_head cut (by decide +kernel) (by decide),
      check_english_of_head otherCut (by decide +kernel) (by decide)⟩
  exact ⟨asks, otherAsks, (run_rejected_eq (shelf WordList.english) "" zeros zeros asks otherAsks
    (.seed "tango" "") rejected).1⟩

end MnemonicCode.CommandLine
