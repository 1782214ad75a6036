import MnemonicCode.CommandLine.Request
import Mathlib

/-!
# Scanning words

Arguments that do not begin with a hyphen are words (`Role.of_eq_word`); the others are
options or errors (`Role.of_eq_unknown`). The scan takes up words in order and changes
nothing else (`scan_words`). So after a path of the settings and the name of a command,
words are the phrase as they stand (`ofArguments_validate`), while the first argument
among them that begins with a hyphen and is no option ends the scan
(`ofArguments_validate_unknown`).
-/

set_option autoImplicit false

namespace MnemonicCode.CommandLine

/-- The argument does not begin with a hyphen. -/
def IsPlain (argument : String) : Prop := argument.toList.head? ≠ some '-'

instance : DecidablePred IsPlain := fun argument =>
  inferInstanceAs (Decidable (argument.toList.head? ≠ some '-'))

/-- The spellings of the options. -/
def options : List String :=
  ["--config", "-c", "--bits", "-b", "--passphrase", "-p", "--help", "-h"]

variable {argument : String} {words : List String}

/-- All options begin with a hyphen. -/
theorem not_mem_options (plain : IsPlain argument) : argument ∉ options := by
  have hyphenated : ∀ option ∈ options, ¬ IsPlain option := by decide
  exact fun listed => hyphenated argument listed plain

/-- An argument that is no option is told by its first character. -/
theorem Role.of_of_not_mem (other : argument ∉ options) :
    Role.of argument = if argument.toList.head? = some '-' then .unknown else .word := by
  simp only [options, List.mem_cons, List.not_mem_nil, or_false, not_or] at other
  simp [Role.of, other]

theorem Role.of_eq_word (plain : IsPlain argument) : Role.of argument = .word := by
  rw [of_of_not_mem (not_mem_options plain), if_neg plain]

theorem Role.of_eq_unknown (hyphen : ¬ IsPlain argument) (other : argument ∉ options) :
    Role.of argument = .unknown := by
  rw [of_of_not_mem other, if_pos (not_not.mp hyphen)]

/-- The findings with more words after those that were found. -/
def Findings.withWords (findings : Findings) (words : List String) : Findings :=
  { findings with words := findings.words ++ words }

theorem scan_word (plain : IsPlain argument) (findings : Findings) (rest : List String) :
    scan findings (argument :: rest) = scan (findings.withWords [argument]) rest := by
  rw [scan.eq_def]
  simp only [Role.of_eq_word plain]
  rfl

theorem scan_unknown (hyphen : ¬ IsPlain argument) (other : argument ∉ options)
    (findings : Findings) (rest : List String) :
    scan findings (argument :: rest) = .error (.unknownOption argument) := by
  rw [scan.eq_def]
  simp only [Role.of_eq_unknown hyphen other]

/-- **Words are taken up as they stand**, and the scan goes on after them. -/
theorem scan_words (plain : ∀ word ∈ words, IsPlain word) (findings : Findings)
    (rest : List String) :
    scan findings (words ++ rest) = scan (findings.withWords words) rest := by
  induction words generalizing findings with
  | nil => simp [Findings.withWords]
  | cons word more ih =>
    have wordPlain : IsPlain word := plain word List.mem_cons_self
    have morePlain : ∀ other ∈ more, IsPlain other := fun other later =>
      plain other (List.mem_cons_of_mem word later)
    rw [List.cons_append, scan_word wordPlain, ih morePlain]
    simp [Findings.withWords]

/-! ## Requests -/

variable (path : String)

/-- The arguments that ask for a phrase to be checked. -/
def validateArguments (words : List String) : List String :=
  ["--config", path, "validate"] ++ words

/-- The findings after the name of the command. -/
def validateFindings : Findings := ⟨some path, none, "", #["validate"]⟩

theorem scan_validateArguments (words : List String) :
    scan .none (validateArguments path words) = scan (validateFindings path) words := by
  have isOption : Role.of "--config" = .settings := by decide
  have plain : IsPlain "validate" := by decide
  have afterPath : scan .none (validateArguments path words) =
      scan ⟨some path, none, "", #[]⟩ ("validate" :: words) := by
    rw [validateArguments, List.cons_append, scan.eq_def]
    simp only [isOption]
    rfl
  rw [afterPath, scan_word plain]
  rfl

theorem ofArguments_validate (plain : ∀ word ∈ words, IsPlain word) :
    Request.ofArguments (validateArguments path words) =
      .ok ⟨some path, .validate (Phrase.ofWords words)⟩ := by
  have scanned := scan_words plain (validateFindings path) []
  rw [List.append_nil] at scanned
  rw [Request.ofArguments, scan_validateArguments, scanned, scan.eq_def]
  simp [Findings.command, Findings.withWords, validateFindings, Except.map]

theorem ofArguments_validate_unknown (plain : ∀ word ∈ words, IsPlain word)
    (hyphen : ¬ IsPlain argument) (other : argument ∉ options) (rest : List String) :
    Request.ofArguments (validateArguments path (words ++ argument :: rest)) =
      .error (.unknownOption argument) := by
  rw [Request.ofArguments, scan_validateArguments, scan_words plain, scan_unknown hyphen other]

end MnemonicCode.CommandLine
