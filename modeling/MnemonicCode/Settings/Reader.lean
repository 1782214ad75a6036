import MnemonicCode.Json.Reader
import MnemonicCode.Settings.Basic
import MnemonicCode.Settings.Fault

/-!
# Reading settings

Settings are read from JSON as far as the text could be read, and the first
thing wrong in the order of the text is reported: a value of the wrong shape
before a fault of the text that comes after it, and the other way round.

A mapping may leave out members, which then have their standard values; it has
no other members and none twice. A list gives the same values in order. In a
source, the kind is judged where it stands, and the other values are read to the
end before they are judged. Members of a source that its kind does not use are
ignored.
-/

set_option autoImplicit false

namespace MnemonicCode.Settings

/-- Fails with a mismatch. -/
def mismatch {α : Type} (mismatch : Mismatch) : Except ReadFault α := .error (.shape mismatch)

/-- Fails if there is a fault of the text. -/
def unbroken : Option Json.Fault → Except ReadFault Unit
  | none => .ok ()
  | some fault => .error (.text fault)

/-- The failure for a value of the wrong type. -/
def unexpected {α : Type} (found : Json) (expected : Expectation) : Except ReadFault α :=
  match found with
  | .broken fault => .error (.text fault)
  | _ => mismatch (.type found expected)

/-- Reads a strength. -/
def strengthOf (value : Json) : Except ReadFault Strength :=
  match value with
  | .number (.natural bits) =>
    if bits < Strength.bitsLimit then
      match Strength.ofBits bits with
      | .ok strength => .ok strength
      | .error _ => mismatch (.strength bits)
    else mismatch (.range bits)
  | .number (.negative magnitude) => mismatch (.range (-magnitude))
  | _ => unexpected value .bits

/-- The two kinds of sources. -/
inductive Kind where
  | embedded
  | file
  deriving DecidableEq, Repr

/-- Reads the kind of a source. -/
def kindOf (value : Json) : Except ReadFault Kind :=
  match value with
  | .string word =>
    if word = embeddedWord then .ok .embedded
    else if word = fileWord then .ok .file
    else mismatch (.unknownKind word)
  | _ => unexpected value .kind

/-- Reads a path. -/
def pathOf (value : Json) : Except ReadFault String :=
  match value with
  | .string path => .ok path
  | _ => unexpected value .path

/-- Reads a pin, which may be absent. -/
def pinOf (value : Json) : Except ReadFault (Option String) :=
  match value with
  | .null => .ok none
  | .string pin => .ok (some pin)
  | _ => unexpected value .pin

/-- Reads the members of a source: its kind, and the other members as they are. -/
def sourceMembers (kind : Option Kind) (others : List (String × Json))
    (ending : Option Json.Fault) :
    List (String × Json) → Except ReadFault (Kind × List (String × Json))
  | [] => do
    unbroken ending
    match kind with
    | none => mismatch (.missingMember kindName)
    | some kind => return (kind, others.reverse)
  | (name, value) :: rest =>
    if name = kindName then
      match kind with
      | some _ => mismatch (.repeatedMember kindName)
      | none => do
        let kind ← kindOf value
        sourceMembers (some kind) others ending rest
    else do
      unbroken value.fault?
      sourceMembers kind ((name, value) :: others) ending rest

/-- Reads the members of a file; `path` and `pin` are what was found before. -/
def fileMembers (path : Option String) (pin : Option (Option String)) :
    List (String × Json) → Except ReadFault WordListSource
  | [] =>
    match path with
    | none => mismatch (.missingMember pathName)
    | some path => .ok (.file path (pin.getD none))
  | (name, value) :: rest =>
    if name = pathName then
      match path with
      | some _ => mismatch (.repeatedMember pathName)
      | none => do
        let path ← pathOf value
        fileMembers (some path) pin rest
    else if name = pinName then
      match pin with
      | some _ => mismatch (.repeatedMember pinName)
      | none => do
        let pin ← pinOf value
        fileMembers path (some pin) rest
    else fileMembers path pin rest

/-- Reads the items after the kind. -/
def sourceItems (kind : Kind) (items : List Json) : Except ReadFault WordListSource :=
  match kind with
  | .embedded =>
    if items.isEmpty then .ok .embedded else mismatch (.surplusItems items.length 0)
  | .file =>
    match items with
    | [] => mismatch .missingItems
    | [path] => do return .file (← pathOf path) none
    | path :: pin :: rest => do
      let path ← pathOf path
      let pin ← pinOf pin
      if rest.isEmpty then return .file path pin
      else mismatch (.surplusItems items.length 2)

/-- Reads a source. -/
def sourceOf (value : Json) : Except ReadFault WordListSource :=
  match value with
  | .object members ending => do
    let (kind, others) ← sourceMembers none [] ending members
    match kind with
    | .embedded => return .embedded
    | .file => fileMembers none none others
  | .array [] ending => do
    unbroken ending
    mismatch (.missingMember kindName)
  | .array (first :: rest) ending => do
    let kind ← kindOf first
    unbroken ((Json.itemsFault? rest).or ending)
    sourceItems kind rest
  | _ => unexpected value .source

/-- Reads the members of settings; `strength` and `source` are what was found
before. -/
def settingsMembers (strength : Option Strength) (source : Option WordListSource)
    (ending : Option Json.Fault) : List (String × Json) → Except ReadFault Settings
  | [] => do
    unbroken ending
    return ⟨strength.getD standard.strength, source.getD standard.source⟩
  | (name, value) :: rest =>
    if name = strengthName then
      match strength with
      | some _ => mismatch (.repeatedMember strengthName)
      | none => do
        let strength ← strengthOf value
        settingsMembers (some strength) source ending rest
    else if name = sourceName then
      match source with
      | some _ => mismatch (.repeatedMember sourceName)
      | none => do
        let source ← sourceOf value
        settingsMembers strength (some source) ending rest
    else mismatch (.unknownMember name)

/-- Reads settings given as a list. A third item is not looked at. -/
def settingsItems (items : List Json) (ending : Option Json.Fault) :
    Except ReadFault Settings :=
  match items with
  | [] => do
    unbroken ending
    return standard
  | [strength] => do
    let strength ← strengthOf strength
    unbroken ending
    return { standard with strength }
  | strength :: source :: rest => do
    let strength ← strengthOf strength
    let source ← sourceOf source
    if rest.isEmpty then
      unbroken ending
      return ⟨strength, source⟩
    else .error (.text .malformed)

/-- Reads settings from JSON. -/
def ofJson (value : Json) : Except ReadFault Settings :=
  match value with
  | .object members ending => settingsMembers none none ending members
  | .array items ending => settingsItems items ending
  | _ => unexpected value .settings

/-- Reads a text that holds one value. -/
def ofDocument {α : Type} (read : Json → Except ReadFault α) (text : String) :
    Except ReadFault α := do
  let document := Json.read text
  let result ← read document.value
  unbroken document.trailing
  return result

/-- The settings in a text. -/
def ofText (text : String) : Except ReadFault Settings := ofDocument ofJson text

/-- The strength in a text. -/
def strengthOfText (text : String) : Except ReadFault Strength := ofDocument strengthOf text

end MnemonicCode.Settings
