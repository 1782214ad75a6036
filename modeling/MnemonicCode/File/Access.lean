import MnemonicCode.File.Fault
import MnemonicCode.Octets

/-!
# Access to files

What the library asks of a file system: whether a path leads to something, and
the octets of a file. An access may act in any monad. In `Id` it is a fixed state
of the files, in `IO` it is the system.
-/

set_option autoImplicit false

namespace MnemonicCode.File

/-- The two questions that are asked about a path. -/
structure Access (m : Type → Type) where
  isPresent : String → m Bool
  read : String → m (Except Fault Octets)

end MnemonicCode.File
