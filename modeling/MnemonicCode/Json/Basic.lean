import MnemonicCode.Json.Number

/-!
# JSON as far as it was read

A JSON text is read from left to right into a tree until something is wrong. The
tree then still tells what stands before the fault: a container that is not
closed carries the fault at which it stops, and a value that cannot be read is a
fault itself. A text is well-formed when its tree has no fault
(`Json.fault?`) and nothing follows it.

Members of an object are kept in the order of the text, repeated names included.
-/

set_option autoImplicit false

namespace MnemonicCode

/-- A JSON value, as far as it could be read. The ending of a container is the fault that keeps
it from being closed. -/
inductive Json where
  | null
  | boolean (value : Bool)
  | number (value : Json.Number)
  | string (value : String)
  | array (items : List Json) (ending : Option Json.Fault)
  | object (members : List (String × Json)) (ending : Option Json.Fault)
  | broken (fault : Json.Fault)

namespace Json

mutual

/-- The first fault in a value. -/
def fault? : Json → Option Fault
  | .null => none
  | .boolean _ => none
  | .number _ => none
  | .string _ => none
  | .array items ending => (itemsFault? items).or ending
  | .object members ending => (membersFault? members).or ending
  | .broken fault => some fault

/-- The first fault in the items of an array. -/
def itemsFault? : List Json → Option Fault
  | [] => none
  | item :: rest => (fault? item).or (itemsFault? rest)

/-- The first fault in the members of an object. -/
def membersFault? : List (String × Json) → Option Fault
  | [] => none
  | (_, value) :: rest => (fault? value).or (membersFault? rest)

end

end Json

end MnemonicCode
