import MnemonicCode.CommandLine.Run
import Mathlib

/-!
# Runs over fixed files

Over files that do not change, a run is a chain of three steps, each of which may end it:
the settings, the word list that they ask for, and the command (`respond_eq`). A request
is carried out when the first two succeed (`Configured`), and then its outcome is that of
the command. A run that exits with 0 has gone through all of them
(`exists_perform_of_exitCode`).
-/

set_option autoImplicit false

namespace MnemonicCode.CommandLine

variable {files : File.Access Id} {home : String} {randomness : Randomness}
  {arguments : List String} {request : Request} {settings : Settings} {list : WordList}
  {outcome : Outcome}

/-! ## Output -/

theorem line_inj {left right : String} : line left = line right ↔ left = right := by
  constructor
  · intro same
    have characters := congrArg String.toList same
    rw [line, line, String.toList_append, String.toList_append] at characters
    exact String.toList_inj.mp (List.append_cancel_right characters)
  · rintro rfl
    rfl

/-! ## Commands -/

theorem perform_generate (settings : Settings) (book : Phrasebook) (bits : Option Nat) :
    perform settings book (.generate bits) =
      match newPhrase settings book bits with
      | .error cause => .error (.failure cause)
      | .ok phrase => .ok ⟨0, line phrase, line advice⟩ :=
  rfl

theorem perform_validate (settings : Settings) (book : Phrasebook) (phrase : String) :
    perform settings book (.validate phrase) =
      match book.check phrase with
      | .error cause => .ok ⟨1, line ("invalid: " ++ cause.message), ""⟩
      | .ok () => .ok (printed "valid") :=
  rfl

/-! ## Files -/

/-- The settings at a path are those in the file there. -/
theorem settingsAt_given (files : File.Access Id) (home path : String) :
    (settingsAt files home (some path) : Except Settings.Fault Settings) =
      Settings.ofContent path (files.read path) :=
  rfl

/-- Without a path they are those in the default file, or the standard ones if there is none. -/
theorem settingsAt_standing (files : File.Access Id) (home : String) :
    (settingsAt files home none : Except Settings.Fault Settings) =
      if (files.isPresent (Settings.defaultPath home)).run then
        Settings.ofContent (Settings.defaultPath home) (files.read (Settings.defaultPath home))
      else .ok Settings.standard :=
  rfl

/-- The word list is the standard one, or the one in the file that the settings name. -/
theorem wordList_eq (files : File.Access Id) (settings : Settings) :
    (settings.wordList files : Except Settings.Fault WordList) =
      match settings.source with
      | .embedded => .ok WordList.english
      | .file path pin =>
        (WordList.ofContent path pin (files.read path)).mapError .wordList := by
  rw [Settings.wordList]
  cases settings.source <;> rfl

/-! ## Requests -/

/-- The settings at the path and the word list that they ask for are there. -/
structure Configured (files : File.Access Id) (home : String) (path : Option String)
    (settings : Settings) (list : WordList) : Prop where
  settings_eq : settingsAt files home path = .ok settings
  list_eq : settings.wordList files = .ok list

/-- There is one reading of the settings and one of the word list. -/
theorem Configured.unique {path : Option String} {otherSettings : Settings}
    {otherList : WordList} (configured : Configured files home path settings list)
    (again : Configured files home path otherSettings otherList) :
    settings = otherSettings ∧ list = otherList := by
  cases configured.settings_eq.symm.trans again.settings_eq
  cases configured.list_eq.symm.trans again.list_eq
  exact ⟨rfl, rfl⟩

/-- The three steps of a request. -/
theorem respond_eq (files : File.Access Id) (home : String) (randomness : Randomness)
    (request : Request) :
    respond files home randomness request =
      match (settingsAt files home request.settingsPath : Except Settings.Fault Settings) with
      | .error fault => .error (.settings request.settingsPath fault)
      | .ok settings =>
        match (settings.wordList files : Except Settings.Fault WordList) with
        | .error fault => .error (.wordList fault)
        | .ok list => perform settings ⟨list, randomness⟩ request.command := by
  rw [respond]
  change (match (settingsAt files home request.settingsPath : Except Settings.Fault Settings) with
    | .error fault => _
    | .ok settings => _) = _
  split
  · rfl
  · change (match (Settings.wordList files _ : Except Settings.Fault WordList) with
      | .error fault => _
      | .ok list => _) = _
    split <;> rfl

theorem respond_of_configured
    (configured : Configured files home request.settingsPath settings list) :
    respond files home randomness request =
      perform settings ⟨list, randomness⟩ request.command := by
  rw [respond_eq, configured.settings_eq]
  simp only [configured.list_eq]

/-- A request that is answered has its settings and its word list. -/
theorem exists_configured (answered : respond files home randomness request = .ok outcome) :
    ∃ settings list, Configured files home request.settingsPath settings list ∧
      perform settings ⟨list, randomness⟩ request.command = .ok outcome := by
  rw [respond_eq] at answered
  split at answered
  · cases answered
  · next settings loaded =>
    split at answered
    · cases answered
    · next list found => exact ⟨settings, list, ⟨loaded, found⟩, answered⟩

/-! ## Arguments -/

/-- What the program does with arguments that ask for something. -/
theorem run_of_request (asks : Request.ofArguments arguments = .ok request) :
    run files home randomness arguments =
      match (respond files home randomness request : Except RunFault Outcome) with
      | .error fault => failed fault
      | .ok outcome => outcome := by
  rw [run, asks]
  change (match (respond files home randomness request : Except RunFault Outcome) with
    | .error fault => _
    | .ok outcome => _) = _
  split <;> rfl

theorem run_of_configured (asks : Request.ofArguments arguments = .ok request)
    (configured : Configured files home request.settingsPath settings list)
    (performed : perform settings ⟨list, randomness⟩ request.command = .ok outcome) :
    run files home randomness arguments = outcome := by
  rw [run_of_request asks, respond_of_configured configured, performed]

theorem run_of_usageFault {fault : UsageFault}
    (refused : Request.ofArguments arguments = .error fault) :
    run files home randomness arguments = failed (.usage fault) := by
  rw [run, refused]
  rfl

/-- A run that exits with 0 has carried out its command. -/
theorem exists_perform_of_exitCode (asks : Request.ofArguments arguments = .ok request)
    (success : Outcome.exitCode (run files home randomness arguments) = 0) :
    ∃ settings list, Configured files home request.settingsPath settings list ∧
      perform settings ⟨list, randomness⟩ request.command =
        .ok (run files home randomness arguments) := by
  rw [run_of_request asks] at success ⊢
  cases answered : respond files home randomness request with
  | error fault =>
    rw [answered] at success
    cases success
  | ok outcome => exact exists_configured answered

end MnemonicCode.CommandLine
