/-!
# Why a file is not read

The causes that the system gives for a file that cannot be opened or read, with
their texts and numbers, and one more: that the octets of a file that should
hold a text are not UTF-8.
-/

set_option autoImplicit false

namespace MnemonicCode.File

/-- Why a file is not read. -/
inductive Fault where
  | notFound
  | notDirectory
  | isDirectory
  | nameTooLong
  | nulInPath
  | notText
  | other (text : String)
  deriving DecidableEq, Repr

/-- The text of the fault. -/
def Fault.message : Fault → String
  | notFound => "No such file or directory (os error 2)"
  | notDirectory => "Not a directory (os error 20)"
  | isDirectory => "Is a directory (os error 21)"
  | nameTooLong => "File name too long (os error 36)"
  | nulInPath => "file name contained an unexpected NUL byte"
  | notText => "stream did not contain valid UTF-8"
  | other text => text

end MnemonicCode.File
