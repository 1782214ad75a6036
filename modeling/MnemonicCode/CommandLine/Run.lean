import MnemonicCode.CommandLine.Request
import MnemonicCode.Phrasebook
import MnemonicCode.Settings.Location

/-!
# A run of the command line

A run reads the arguments, then the settings, then the word list, and only then
looks at the command. Whatever fails first ends the run with one line on the
error output and the exit code 1; nothing is printed before a command has
succeeded. An invalid phrase is not a failure of `validate` but its result,
which goes to the output, with the exit code 1 all the same.
-/

set_option autoImplicit false

namespace MnemonicCode.CommandLine

/-- The version that the usage text shows. -/
def version : String := "0.1.0"

/-- What a run leaves behind. -/
structure Outcome where
  exitCode : Nat
  output : String
  errors : String
  deriving DecidableEq, Repr

/-- Why a run fails. -/
inductive RunFault where
  | usage (fault : UsageFault)
  | settings (path : Option String) (fault : Settings.Fault)
  | wordList (fault : Settings.Fault)
  | failure (cause : Failure)

/-- The text of the fault. -/
def RunFault.message : RunFault → String
  | usage fault => fault.message
  | settings (some path) fault => s!"loading config {path}: {fault.message}"
  | settings none fault => s!"loading default config: {fault.message}"
  | wordList fault => fault.message
  | failure cause => cause.message

/-- The lines of the usage text. -/
def usageLines : List String := [
  s!"Seedphrase v{version}",
  "",
  "USAGE:",
  "    seedphrase [OPTIONS] <COMMAND>",
  "",
  "COMMANDS:",
  "    generate                    Print a new mnemonic phrase",
  "    validate <WORDS>...         Check a phrase (exit code 1 if invalid)",
  "    seed <WORDS>...             Derive the 64-byte seed (hex)",
  "    wordlist-digest             Print the SHA-256 of the wordlist",
  "",
  "OPTIONS:",
  "    -c, --config <PATH>         Config file (default: ~/.seedphrase/config.json)",
  "    -b, --bits <BITS>           Entropy bits: 128, 160, 192, 224 or 256",
  "    -p, --passphrase <TEXT>     Passphrase for seed derivation",
  "    -h, --help                  Print help"]

/-- One line of output. -/
def line (text : String) : String := text ++ "\n"

/-- The usage text. -/
def usage : String := String.join (usageLines.map line)

/-- The advice that goes with a new phrase. -/
def advice : String := "Write these words down and store them securely."

/-- A run that printed one line and nothing else. -/
def printed (text : String) : Outcome := ⟨0, line text, ""⟩

/-- A run that failed. -/
def failed (fault : RunFault) : Outcome := ⟨1, "", line ("error: " ++ fault.message)⟩

/-- A new phrase with the bits asked for, or of the strength in the settings. -/
def newPhrase (settings : Settings) (book : Phrasebook) : Option Nat → Except Failure String
  | some bits => book.generateBits bits
  | none => book.generate settings.strength

/-- Carries out a command. -/
def perform (settings : Settings) (book : Phrasebook) : Command → Except RunFault Outcome
  | .generate bits =>
    match newPhrase settings book bits with
    | .error cause => .error (.failure cause)
    | .ok phrase => .ok ⟨0, line phrase, line advice⟩
  | .validate phrase =>
    match book.check phrase with
    | .error cause => .ok ⟨1, line ("invalid: " ++ cause.message), ""⟩
    | .ok () => .ok (printed "valid")
  | .seed phrase passphrase =>
    match book.seed phrase passphrase with
    | .error cause => .error (.failure cause)
    | .ok seed => .ok (printed seed.hex)
  | .digest => .ok (printed book.list.digest)
  | .help => .ok ⟨0, usage, ""⟩

section Access

variable {m : Type → Type} [Monad m]

/-- The settings at the path, or at the default path if none is given. -/
def settingsAt (files : File.Access m) (home : String) (path : Option String) :
    m (Except Settings.Fault Settings) :=
  match path with
  | some path => Settings.load files path
  | none => Settings.loadDefault files home

/-- Carries out a request. -/
def respond (files : File.Access m) (home : String) (randomness : Randomness)
    (request : Request) : m (Except RunFault Outcome) := do
  match ← settingsAt files home request.settingsPath with
  | .error fault => return .error (.settings request.settingsPath fault)
  | .ok settings =>
    match ← settings.wordList files with
    | .error fault => return .error (.wordList fault)
    | .ok list => return perform settings ⟨list, randomness⟩ request.command

/-- Runs the program. -/
def run (files : File.Access m) (home : String) (randomness : Randomness)
    (arguments : List String) : m Outcome := do
  match Request.ofArguments arguments with
  | .error fault => return failed (.usage fault)
  | .ok request =>
    match ← respond files home randomness request with
    | .error fault => return failed fault
    | .ok outcome => return outcome

end Access

end MnemonicCode.CommandLine
