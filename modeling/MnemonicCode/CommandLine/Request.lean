import MnemonicCode.Phrase.Encoding

/-!
# What the command line asks for

The arguments are scanned from left to right. Options with a value take the next
argument, whatever it looks like; a later value replaces an earlier one. A help
option ends the scan. All other arguments that do not begin with a hyphen are
words: the first names the command, and the others make up the phrase.
-/

set_option autoImplicit false

namespace MnemonicCode.CommandLine

/-- What is to be done. A new phrase has the bits asked for, or as many as the settings say. -/
inductive Command where
  | generate (bits : Option Nat)
  | validate (phrase : String)
  | seed (phrase passphrase : String)
  | digest
  | help
  deriving DecidableEq, Repr

/-- A command, and the path of the settings if one is given. -/
structure Request where
  settingsPath : Option String
  command : Command
  deriving DecidableEq, Repr

/-- Why a text is not a number of 32 bits. -/
inductive NumeralFault where
  | empty
  | invalidDigit
  | tooLarge
  deriving DecidableEq, Repr

/-- The text of the fault. -/
def NumeralFault.message : NumeralFault → String
  | empty => "cannot parse integer from empty string"
  | invalidDigit => "invalid digit found in string"
  | tooLarge => "number too large to fit in target type"

/-- Why arguments ask for nothing. -/
inductive UsageFault where
  | missingPath
  | missingBits
  | missingPassphrase
  | invalidBits (value : String) (fault : NumeralFault)
  | unknownOption (option : String)
  | unknownCommand (name : String)
  deriving DecidableEq, Repr

/-- The text of the fault. -/
def UsageFault.message : UsageFault → String
  | missingPath => "--config needs a path"
  | missingBits => "--bits needs a value"
  | missingPassphrase => "--passphrase needs a value"
  | invalidBits value fault => s!"invalid bit count {value}: {fault.message}"
  | unknownOption option => s!"unknown option {option}"
  | unknownCommand name => s!"unknown command {name}"

/-- Reads digits after those that spell `value`, and stops at the first that is
none or makes the number too large. -/
def readDigits (value : Nat) : List Char → Except NumeralFault Nat
  | [] => .ok value
  | c :: rest =>
    if c.isDigit then
      let extended := 10 * value + (c.toNat - '0'.toNat)
      if extended < Strength.bitsLimit then readDigits extended rest else .error .tooLarge
    else .error .invalidDigit

/-- Reads a number of 32 bits, with or without a plus sign. -/
def readNumeral (text : String) : Except NumeralFault Nat :=
  match text.toList with
  | [] => .error .empty
  | ['+'] => .error .invalidDigit
  | '+' :: digits => readDigits 0 digits
  | digits => readDigits 0 digits

/-- What an argument is, where no value is expected. -/
inductive Role where
  | settings
  | bits
  | passphrase
  | help
  | unknown
  | word
  deriving DecidableEq, Repr

/-- What the argument is. -/
def Role.of (argument : String) : Role :=
  if argument = "--config" ∨ argument = "-c" then settings
  else if argument = "--bits" ∨ argument = "-b" then bits
  else if argument = "--passphrase" ∨ argument = "-p" then passphrase
  else if argument = "--help" ∨ argument = "-h" then help
  else if argument.toList.head? = some '-' then unknown
  else word

/-- What the scan has found: the last value of each option, and the words in order. -/
structure Findings where
  settingsPath : Option String
  bits : Option Nat
  passphrase : String
  words : Array String
  deriving DecidableEq, Repr

/-- The findings before the first argument. -/
def Findings.none : Findings := ⟨.none, .none, "", #[]⟩

/-- How a scan ends: at a help option or after all arguments, with what was found before. -/
inductive Scan where
  | help (findings : Findings)
  | complete (findings : Findings)
  deriving DecidableEq, Repr

/-- Scans the arguments. -/
def scan (findings : Findings) : List String → Except UsageFault Scan
  | [] => .ok (.complete findings)
  | argument :: rest =>
    match Role.of argument with
    | .settings =>
      match rest with
      | [] => .error .missingPath
      | path :: rest => scan { findings with settingsPath := some path } rest
    | .bits =>
      match rest with
      | [] => .error .missingBits
      | value :: rest =>
        match readNumeral value with
        | .error fault => .error (.invalidBits value fault)
        | .ok bits => scan { findings with bits := some bits } rest
    | .passphrase =>
      match rest with
      | [] => .error .missingPassphrase
      | passphrase :: rest => scan { findings with passphrase } rest
    | .help => .ok (.help findings)
    | .unknown => .error (.unknownOption argument)
    | .word => scan { findings with words := findings.words.push argument } rest

/-- The command that the findings of a complete scan ask for. -/
def Findings.command (findings : Findings) : Except UsageFault Command :=
  match findings.words.toList with
  | [] => .ok .help
  | name :: rest =>
    let phrase := Phrase.ofWords rest
    if name = "generate" then .ok (.generate findings.bits)
    else if name = "validate" then .ok (.validate phrase)
    else if name = "seed" then .ok (.seed phrase findings.passphrase)
    else if name = "wordlist-digest" then .ok .digest
    else if name = "help" then .ok .help
    else .error (.unknownCommand name)

/-- What the arguments ask for. -/
def Request.ofArguments (arguments : List String) : Except UsageFault Request :=
  match scan .none arguments with
  | .error fault => .error fault
  | .ok (.help findings) => .ok ⟨findings.settingsPath, .help⟩
  | .ok (.complete findings) =>
    findings.command.map fun command => ⟨findings.settingsPath, command⟩

end MnemonicCode.CommandLine
