import MnemonicCode.File.Tree
import MnemonicCode.Proofs.CommandLine.Endings
import MnemonicCode.Proofs.CommandLine.OwnPhrases
import MnemonicCode.Proofs.CommandLine.Readings
import Mathlib

/-!
# Asking for help

Arguments ask for help in three ways: with a help option, with the word `help`, or without
any word (`ofArguments_eq_help_iff`). A run that is asked for help prints the usage text, which
is the same whatever its settings and its word list are (`run_help`).

It looks at its command last, like every other run. So the settings and the word list must be
there although nothing of them is printed: without them the run fails for what it lacks, and
the usage text is not shown (`run_help_brokenSettings`).
-/

set_option autoImplicit false

namespace MnemonicCode.CommandLine

variable {files : File.Access Id} {home : String} {randomness : Randomness}
  {arguments : List String} {items : List Item} {stop : Stop} {path : Option String}

/-! ## Readings that ask for help -/

theorem Findings.command_eq_help_iff {findings : Findings} :
    findings.command = .ok .help ↔
      findings.words.toList = [] ∨ findings.words.toList.head? = some "help" := by
  rw [command]
  cases findings.words.toList with
  | nil => simp
  | cons name rest =>
    rw [List.head?_cons, Option.some.injEq]
    by_cases named : name = "help"
    · simp [named]
    · simp only [named, List.cons_ne_nil, or_self, iff_false, if_false]
      intro same
      split_ifs at same <;> cases same

/-- The readings that ask for help: those that a help option stops, and those of all arguments
that find no word or find `help` as the first one. -/
inductive AsksForHelp (items : List Item) : Stop → Prop where
  | option : AsksForHelp items .help
  | noWords (none : wordsIn items = []) : AsksForHelp items .complete
  | word (first : (wordsIn items).head? = some "help") : AsksForHelp items .complete

theorem asksForHelp_complete_iff :
    AsksForHelp items .complete ↔ (Findings.none.after items).command = .ok .help := by
  rw [Findings.command_eq_help_iff, words_after_none]
  constructor
  · intro asks
    cases asks with
    | noWords none => exact .inl none
    | word first => exact .inr first
  · rintro (none | first)
    · exact .noWords none
    · exact .word first

theorem request_eq_help_iff :
    stop.request items = .ok ⟨path, .help⟩ ↔ AsksForHelp items stop ∧ path = lastPath items := by
  cases stop with
  | complete =>
    rw [asksForHelp_complete_iff, Stop.request]
    cases (Findings.none.after items).command <;> simp [Except.map, and_comm, eq_comm]
  | help =>
    constructor
    · intro asks
      cases asks
      exact ⟨.option, rfl⟩
    · rintro ⟨-, rfl⟩
      rfl
  | refused fault =>
    constructor
    · intro asks
      cases asks
    · rintro ⟨asks, -⟩
      cases asks

/-- **Arguments ask for help exactly when they have such a reading**; the path is the last one
among the items that were read. -/
theorem ofArguments_eq_help_iff :
    Request.ofArguments arguments = .ok ⟨path, .help⟩ ↔
      ∃ items stop, Reads arguments items stop ∧ AsksForHelp items stop ∧
        path = lastPath items := by
  constructor
  · intro asks
    obtain ⟨items, stop, reads⟩ := exists_reads arguments
    rw [ofArguments_of_reads reads] at asks
    exact ⟨items, stop, reads, request_eq_help_iff.mp asks⟩
  · rintro ⟨items, stop, reads, found⟩
    rw [ofArguments_of_reads reads]
    exact request_eq_help_iff.mpr found

/-! ## The run -/

/-- **A run that is asked for help prints the usage text when its settings and its word list
are there, whatever these are.** Otherwise it fails for what it lacks and prints nothing on
the output. The arguments are those with a reading that asks for help, and the settings are at
the last path that was read. -/
theorem run_help (asks : Request.ofArguments arguments = .ok ⟨path, .help⟩) :
    (∃ items stop, Reads arguments items stop ∧ AsksForHelp items stop ∧
      path = lastPath items) ∧
    ∀ files home randomness,
      ((∃ settings list, Configured files home path settings list) →
        run files home randomness arguments = Outcome.mk 0 usage "") ∧
      ((¬ ∃ settings list, Configured files home path settings list) →
        ∃ fault, Lacks files home path fault ∧
          run files home randomness arguments =
            Outcome.mk 1 "" (line ("error: " ++ fault.message))) := by
  refine ⟨ofArguments_eq_help_iff.mp asks, ?_⟩
  intro files home randomness
  constructor
  · rintro ⟨settings, list, configured⟩
    exact run_of_configured asks configured rfl
  · intro none
    rcases configured_or_lacks files home path with there | ⟨fault, lacks⟩
    · exact absurd there none
    · exact ⟨fault, lacks, run_of_lacks asks lacks⟩

theorem run_help_lists :
    Request.ofArguments ["-p", "--help", "-c", "config.json", "seed", "--help", "--lost"] =
        .ok ⟨some "config.json", .help⟩ ∧
      run (shelf WordList.english) "home" zeros
          ["-p", "--help", "-c", "config.json", "seed", "--help", "--lost"] =
        Outcome.mk 0 usage "" ∧
      run (shelf hyphenated) "" (.failing "dry")
          ["-p", "--help", "-c", "config.json", "seed", "--help", "--lost"] =
        Outcome.mk 0 usage "" := by
  have asks : Request.ofArguments
      ["-p", "--help", "-c", "config.json", "seed", "--help", "--lost"] =
        .ok ⟨some "config.json", .help⟩ := by decide
  obtain ⟨-, ends⟩ := run_help asks
  refine ⟨asks, ?_, ?_⟩
  · apply (ends (shelf WordList.english) "home" zeros).1
    exact ⟨_, _, configured_shelf "home" WordList.english⟩
  · apply (ends (shelf hyphenated) "" (.failing "dry")).1
    exact ⟨_, _, configured_shelf "" hyphenated⟩

/-! ## Help with broken settings -/

/-- A tree with nothing but the default file of the settings, which holds this text. -/
def settingsOnly (home text : String) : File.Tree :=
  File.Tree.insert [] (Settings.defaultPath home) (.file (Utf8.encode text))

/-- Without any file the standard settings hold. -/
theorem configured_noFiles :
    Configured (File.Tree.access []) "home" none Settings.standard WordList.english where
  settings_eq := by
    have absent : File.Tree.isPresent [] (Settings.defaultPath "home") = false := by
      decide +kernel
    rw [settingsAt_standing]
    exact if_neg (ne_true_of_eq_false absent)
  list_eq := rfl

/-- Settings that are no object are refused. -/
theorem lacks_settingsOnly_null :
    Lacks (settingsOnly "home" "null").access "home" none
      (.settings none (.refused (.shape (.type .null .settings)))) := by
  have present : (settingsOnly "home" "null").isPresent (Settings.defaultPath "home") = true := by
    decide +kernel
  have content : (settingsOnly "home" "null").read (Settings.defaultPath "home") =
      .ok (Utf8.encode "null") := by decide +kernel
  have refused : Settings.ofText "null" = .error (.shape (.type .null .settings)) := rfl
  apply Lacks.settings
  rw [settingsAt_standing]
  refine (if_pos present).trans ?_
  change Settings.ofContent (Settings.defaultPath "home")
    ((settingsOnly "home" "null").read (Settings.defaultPath "home")) = _
  rw [content]
  simp only [Settings.ofContent, Utf8.decode_encode, refused]
  rfl

/-- **The usage text is not shown when the settings are broken.** Without any file it is, since
the standard settings hold then. -/
theorem run_help_brokenSettings :
    Request.ofArguments ["--help"] = .ok ⟨none, .help⟩ ∧
      run (File.Tree.access []) "home" zeros ["--help"] = Outcome.mk 0 usage "" ∧
      Outcome.exitCode (run (settingsOnly "home" "null").access "home" zeros ["--help"]) = 1 ∧
      Outcome.output (run (settingsOnly "home" "null").access "home" zeros ["--help"]) = "" := by
  have asks : Request.ofArguments ["--help"] = .ok ⟨none, .help⟩ := by decide
  have fails : run (settingsOnly "home" "null").access "home" zeros ["--help"] = failed _ :=
    run_of_lacks asks lacks_settingsOnly_null
  refine ⟨asks, run_of_configured asks configured_noFiles rfl, ?_, ?_⟩
  · rw [fails]
    rfl
  · rw [fails]
    rfl

end MnemonicCode.CommandLine
