import MnemonicCode.CommandLine.Run

/-!
# The program

The outer layer: it takes the arguments, the home directory, the files and the
randomness of the system, and leaves the outcome of the run to the system.
-/

set_option autoImplicit false

namespace MnemonicCode.Program

/-- The fault for an error number, with the words that go with it. Some operations give the
number negated. -/
def faultOfNumber (code : UInt32) (details : String) : File.Fault :=
  match min code.toNat (-code).toNat with
  | 2 => .notFound
  | 20 => .notDirectory
  | 21 => .isDirectory
  | 36 => .nameTooLong
  | 40 => .other "Too many levels of symbolic links (os error 40)"
  | number => .other s!"{details.capitalize} (os error {number})"

/-- The fault for an error of the system. -/
def faultOf : IO.Error → File.Fault
  | .alreadyExists _ code details | .interrupted _ code details
  | .noFileOrDirectory _ code details | .invalidArgument _ code details
  | .permissionDenied _ code details | .resourceExhausted _ code details
  | .inappropriateType _ code details | .noSuchThing _ code details
  | .otherError code details | .resourceBusy code details | .resourceVanished code details
  | .unsupportedOperation code details | .hardwareFault code details
  | .unsatisfiedConstraints code details | .illegalOperation code details
  | .protocolError code details | .timeExpired code details => faultOfNumber code details
  | .unexpectedEof => .other (toString IO.Error.unexpectedEof)
  | .userError text => .other text

/-- The files of the system. A path that cannot be followed, for whatever reason, leads to
nothing. -/
def systemFiles : File.Access IO where
  isPresent path := do
    match ← (IO.FS.realPath path).toBaseIO with
    | .ok _ => return true
    | .error _ => return false
  read path := do
    if path.toList.contains '\x00' then return .error .nulInPath
    match ← (IO.FS.readBinFile path).toBaseIO with
    | .ok octets => return .ok octets.data.toList
    | .error error => return .error (faultOf error)

/-- The home directory of the user, or the working directory if none is named. -/
def homeDirectory : IO String := do
  return ((← IO.getEnv "HOME").filter fun path => !path.isEmpty).getD "."

/-- The randomness of the system: octets for the longest entropy, drawn once. -/
def systemRandomness : IO Randomness := do
  match ← (IO.getRandomBytes 32).toBaseIO with
  | .ok octets => return .repeating octets.data.toList
  | .error error => return .failing (toString error)

end MnemonicCode.Program

/-- Runs the program with the arguments of the command line. -/
def main (arguments : List String) : IO UInt32 := do
  let home ← MnemonicCode.Program.homeDirectory
  let randomness ← MnemonicCode.Program.systemRandomness
  let outcome ← MnemonicCode.CommandLine.run MnemonicCode.Program.systemFiles home randomness
    arguments
  IO.print outcome.output
  IO.eprint outcome.errors
  return outcome.exitCode.toUInt32
