import MnemonicCode.Proofs.CommandLine.OwnPhrases
import MnemonicCode.Proofs.CommandLine.Readings
import Mathlib

/-!
# The files that a run depends on

A run asks about two files at most: the one with the settings, and the one with the word list
if the settings name one. Two states of the files that give the same answers about these
(`Agree`) lead to the same outcome, whatever else they hold (`run_depends_on_two_files`).

The settings are at the last path that is read among the arguments. When there is such a path,
neither the home directory nor the default file counts; when there is none, the run asks
whether the default file is there, and only then what it holds. With the standard word list,
no other file counts at all.
-/

set_option autoImplicit false

namespace MnemonicCode.CommandLine

variable {files others : File.Access Id} {home otherHome : String} {randomness : Randomness}
  {arguments : List String} {items : List Item} {stop : Stop} {path : Option String}
  {request : Request}

/-! ## The same answers -/

/-- Two states of the files, each with its home directory, give the same answers about the
settings at the path. -/
inductive AgreeOnSettings (files others : File.Access Id) (home otherHome : String) :
    Option String → Prop where
  | given {path : String} (content : files.read path = others.read path) :
      AgreeOnSettings files others home otherHome (some path)
  | standing (place : Settings.defaultPath home = Settings.defaultPath otherHome)
      (presence : files.isPresent (Settings.defaultPath home) =
        others.isPresent (Settings.defaultPath home))
      (content : (files.isPresent (Settings.defaultPath home)).run = true →
        files.read (Settings.defaultPath home) = others.read (Settings.defaultPath home)) :
      AgreeOnSettings files others home otherHome none

/-- Two states of the files give the same answer about the word list, if settings were found
and name a file for it. -/
def AgreeOnList (files others : File.Access Id) (found : Except Settings.Fault Settings) : Prop :=
  ∀ settings file pin, found = .ok settings → settings.source = .file file pin →
    files.read file = others.read file

/-- Two states of the files give the same answers about all that a run asks when its settings
are at the path. -/
structure Agree (files others : File.Access Id) (home otherHome : String)
    (path : Option String) : Prop where
  settings : AgreeOnSettings files others home otherHome path
  list : AgreeOnList files others (settingsAt files home path)

/-! ## The same outcome -/

theorem AgreeOnSettings.settingsAt_eq
    (agree : AgreeOnSettings files others home otherHome path) :
    settingsAt files home path = settingsAt others otherHome path := by
  cases agree with
  | given content => rw [settingsAt_given, settingsAt_given, content]
  | standing place presence content =>
    rw [settingsAt_standing, settingsAt_standing, ← place, ← presence]
    cases present : (files.isPresent (Settings.defaultPath home)).run with
    | true => rw [content present]
    | false => rfl

theorem AgreeOnList.wordList_eq {settings : Settings}
    (agree : AgreeOnList files others (.ok settings)) :
    settings.wordList files = settings.wordList others := by
  rw [CommandLine.wordList_eq, CommandLine.wordList_eq]
  cases source : settings.source with
  | embedded => rfl
  | file path pin => simp only [agree settings path pin rfl source]

theorem respond_eq_of_agree (agree : Agree files others home otherHome request.settingsPath) :
    respond files home randomness request = respond others otherHome randomness request := by
  rw [respond_eq, respond_eq, ← agree.settings.settingsAt_eq]
  cases loaded : settingsAt files home request.settingsPath with
  | error fault => rfl
  | ok settings =>
    have list : AgreeOnList files others (.ok settings) := loaded ▸ agree.list
    simp only [list.wordList_eq]

/-- States of the files that agree lead to the same outcome. -/
theorem run_eq_of_agree (reads : Reads arguments items stop)
    (agree : Agree files others home otherHome (lastPath items)) :
    run files home randomness arguments = run others otherHome randomness arguments := by
  cases asks : Request.ofArguments arguments with
  | error fault => rw [run_of_usageFault asks, run_of_usageFault asks]
  | ok request =>
    rw [← settingsPath_of_reads reads asks] at agree
    rw [run_of_request asks, run_of_request asks, respond_eq_of_agree agree]

/-- **A run depends on two files at most.** Two states of the files that give the same answers
about the settings at the last path among the arguments, and about the word list that these
settings name, lead to the same outcome. With a path among the arguments, it is enough that
they agree on the file there and on the word list; the home directories and the default files
may differ. With settings that ask for the standard word list, it is enough that they agree on
the settings. -/
theorem run_depends_on_two_files (reads : Reads arguments items stop)
    (files others : File.Access Id) (home otherHome : String) (randomness : Randomness) :
    (Agree files others home otherHome (lastPath items) →
      run files home randomness arguments = run others otherHome randomness arguments) ∧
    (∀ path, lastPath items = some path → files.read path = others.read path →
      AgreeOnList files others (Settings.ofContent path (files.read path)) →
        run files home randomness arguments = run others otherHome randomness arguments) ∧
    (∀ settings, AgreeOnSettings files others home otherHome (lastPath items) →
      settingsAt files home (lastPath items) = .ok settings → settings.source = .embedded →
        run files home randomness arguments = run others otherHome randomness arguments) := by
  refine ⟨run_eq_of_agree reads, ?_, ?_⟩
  · intro path given content list
    apply run_eq_of_agree reads
    rw [given]
    exact ⟨.given content, list⟩
  · intro settings agree loaded standard
    apply run_eq_of_agree reads
    refine ⟨agree, ?_⟩
    intro found file pin found_eq named
    cases loaded.symm.trans found_eq
    rw [standard] at named
    cases named

/-! ## Other files -/

/-- Files that are the same as on the shelf where a run with `config.json` asks. Everywhere
else there are files without content. -/
def crowdedShelf (list : WordList) : File.Access Id where
  isPresent _ := true
  read path :=
    if path = "config.json" ∨ path = "words.txt" then (shelf list).read path else .ok []

theorem read_crowdedShelf (list : WordList) {path : String}
    (asked : path = "config.json" ∨ path = "words.txt") :
    (shelf list).read path = (crowdedShelf list).read path :=
  (if_pos asked).symm

theorem read_crowdedShelf_other (list : WordList) {path : String}
    (other : ¬ (path = "config.json" ∨ path = "words.txt")) :
    (crowdedShelf list).read path = .ok [] :=
  if_neg other

theorem run_depends_on_two_files_crowded :
    Reads ["-c", "lost.json", "generate", "--config", "config.json"]
        [.settings "lost.json", .word "generate", .settings "config.json"] .complete ∧
      (crowdedShelf WordList.english).read (Settings.defaultPath "home") = .ok [] ∧
      run (shelf WordList.english) "" zeros
          ["-c", "lost.json", "generate", "--config", "config.json"] =
        run (crowdedShelf WordList.english) "home" zeros
          ["-c", "lost.json", "generate", "--config", "config.json"] := by
  have plain : IsPlain "generate" := by decide
  have reads : Reads ["-c", "lost.json", "generate", "--config", "config.json"]
      [.settings "lost.json", .word "generate", .settings "config.json"] .complete :=
    .item (.settings (.inr rfl) "lost.json")
      (.item (.word plain) (.item (.settings (.inl rfl) "config.json") (.stop .complete)))
  have agree : Agree (shelf WordList.english) (crowdedShelf WordList.english) "" "home"
      (some "config.json") := by
    refine ⟨.given (read_crowdedShelf WordList.english (.inl rfl)), ?_⟩
    intro settings file pin loaded named
    cases loaded.symm.trans (configured_shelf "" WordList.english).settings_eq
    cases named
    exact read_crowdedShelf WordList.english (.inr rfl)
  refine ⟨reads, read_crowdedShelf_other WordList.english (by decide), ?_⟩
  exact (run_depends_on_two_files reads (shelf WordList.english) (crowdedShelf WordList.english)
    "" "home" zeros).1 agree

end MnemonicCode.CommandLine
