import MnemonicCode.Proofs.CommandLine.Scanning
import Mathlib

/-!
# Options and words

Arguments without a help option are a sequence of items: options with their values, and
words (`SpellsItems`). A value may be any argument, also one that looks like an option, so
the items are cut from left to right. A scan takes them up one by one (`scan_item`).

Of several values of one option the last one counts (`lastPath`, `lastBits`,
`lastPassphrase`), and the words keep their order (`wordsIn`). So the findings after items
are read off the items.
-/

set_option autoImplicit false

namespace MnemonicCode.CommandLine

/-! ## Items -/

/-- An option with its value, or a word. -/
inductive Item where
  | settings (path : String)
  | bits (number : Nat)
  | passphrase (text : String)
  | word (text : String)
  deriving DecidableEq, Repr

/-- The arguments that make up one item. -/
inductive SpellsItem : List String → Item → Prop where
  | settings {option : String} (named : option = "--config" ∨ option = "-c") (path : String) :
      SpellsItem [option, path] (.settings path)
  | bits {option value : String} {number : Nat} (named : option = "--bits" ∨ option = "-b")
      (read : readNumeral value = .ok number) : SpellsItem [option, value] (.bits number)
  | passphrase {option : String} (named : option = "--passphrase" ∨ option = "-p")
      (text : String) : SpellsItem [option, text] (.passphrase text)
  | word {text : String} (plain : IsPlain text) : SpellsItem [text] (.word text)

/-- The arguments that make up items, one after the other. -/
inductive SpellsItems : List String → List Item → Prop where
  | nil : SpellsItems [] []
  | cons {first rest : List String} {item : Item} {items : List Item}
      (spelled : SpellsItem first item) (others : SpellsItems rest items) :
      SpellsItems (first ++ rest) (item :: items)

/-- The path in an item. -/
def Item.path? : Item → Option String
  | settings path => some path
  | _ => none

/-- The number of bits in an item. -/
def Item.bits? : Item → Option Nat
  | bits number => some number
  | _ => none

/-- The passphrase in an item. -/
def Item.passphrase? : Item → Option String
  | passphrase text => some text
  | _ => none

/-- The word in an item. -/
def Item.word? : Item → Option String
  | word text => some text
  | _ => none

/-- The last path of the settings. -/
def lastPath (items : List Item) : Option String := (items.filterMap Item.path?).getLast?

/-- The last number of bits. -/
def lastBits (items : List Item) : Option Nat := (items.filterMap Item.bits?).getLast?

/-- The last passphrase. -/
def lastPassphrase (items : List Item) : Option String :=
  (items.filterMap Item.passphrase?).getLast?

/-- The words, in order. -/
def wordsIn (items : List Item) : List String := items.filterMap Item.word?

/-! ## Roles -/

/-- What an argument looks like in each role. -/
inductive Role.Fits (argument : String) : Role → Prop where
  | settings (named : argument = "--config" ∨ argument = "-c") : Fits argument .settings
  | bits (named : argument = "--bits" ∨ argument = "-b") : Fits argument .bits
  | passphrase (named : argument = "--passphrase" ∨ argument = "-p") : Fits argument .passphrase
  | help (named : argument = "--help" ∨ argument = "-h") : Fits argument .help
  | unknown (hyphen : ¬ IsPlain argument) : Fits argument .unknown
  | word (plain : IsPlain argument) : Fits argument .word

theorem Role.fits {argument : String} {role : Role} (same : Role.of argument = role) :
    Fits argument role := by
  subst same
  rw [Role.of]
  split_ifs with isSettings isBits isPassphrase isHelp hyphen
  · exact .settings isSettings
  · exact .bits isBits
  · exact .passphrase isPassphrase
  · exact .help isHelp
  · exact .unknown (not_not.mpr hyphen)
  · exact .word hyphen

/-- An argument that looks like a known role has it. -/
theorem Role.Fits.of_eq {argument : String} {role : Role} (fits : Fits argument role)
    (known : role ≠ .unknown) : Role.of argument = role := by
  cases fits with
  | settings named | bits named | passphrase named | help named =>
    rcases named with rfl | rfl <;> decide
  | unknown => exact absurd rfl known
  | word plain => exact Role.of_eq_word plain

/-! ## Scanning items -/

section Scan

variable {arguments : List String} {item : Item}

/-- The findings after one more item. -/
def Findings.add (findings : Findings) : Item → Findings
  | .settings path => { findings with settingsPath := some path }
  | .bits number => { findings with bits := some number }
  | .passphrase text => { findings with passphrase := text }
  | .word text => { findings with words := findings.words.push text }

/-- The findings after the items. -/
def Findings.after (findings : Findings) (items : List Item) : Findings :=
  items.foldl Findings.add findings

/-- The scan takes up an item, and goes on with the arguments after it. -/
theorem scan_item (spelled : SpellsItem arguments item) (findings : Findings)
    (rest : List String) :
    scan findings (arguments ++ rest) = scan (findings.add item) rest := by
  cases spelled with
  | settings named path =>
    have role := (Role.Fits.settings named).of_eq Role.noConfusion
    rw [List.cons_append, scan.eq_def]
    simp only [role]
    rfl
  | bits named read =>
    have role := (Role.Fits.bits named).of_eq Role.noConfusion
    rw [List.cons_append, scan.eq_def]
    simp only [role, List.singleton_append, read]
    rfl
  | passphrase named text =>
    have role := (Role.Fits.passphrase named).of_eq Role.noConfusion
    rw [List.cons_append, scan.eq_def]
    simp only [role]
    rfl
  | word plain =>
    rw [List.singleton_append, scan_word plain]
    simp [Findings.add, Findings.withWords]

end Scan

/-! ## What counts -/

section After

variable (findings : Findings) (items : List Item)

/-- The last value of an option replaces what was found before. -/
theorem Findings.field_after {α : Type} (field : Findings → Option α) (value? : Item → Option α)
    (step : ∀ findings item, field (add findings item) = (value? item).or (field findings)) :
    field (findings.after items) = (items.filterMap value?).getLast?.or (field findings) := by
  induction items generalizing findings with
  | nil => rfl
  | cons item rest ih =>
    have later : field (findings.after (item :: rest)) =
        (rest.filterMap value?).getLast?.or ((value? item).or (field findings)) :=
      (ih (findings.add item)).trans (congrArg _ (step findings item))
    rw [later, ← Option.or_assoc]
    cases value : value? item with
    | none => rw [List.filterMap_cons_none value, Option.or_none]
    | some found =>
      rw [List.filterMap_cons_some value, List.getLast?_cons]
      cases (rest.filterMap value?).getLast? <;> rfl

theorem Findings.settingsPath_after :
    (findings.after items).settingsPath = (lastPath items).or findings.settingsPath := by
  refine field_after findings items settingsPath Item.path? fun findings item => ?_
  cases item <;> rfl

theorem Findings.bits_after : (findings.after items).bits = (lastBits items).or findings.bits := by
  refine field_after findings items bits Item.bits? fun findings item => ?_
  cases item <;> rfl

theorem Findings.passphrase_after :
    (findings.after items).passphrase = (lastPassphrase items).getD findings.passphrase := by
  have step : ∀ (findings : Findings) (item : Item),
      some (findings.add item).passphrase = item.passphrase?.or (some findings.passphrase) := by
    intro findings item
    cases item <;> rfl
  have last := field_after findings items (fun found => some found.passphrase)
    Item.passphrase? step
  rw [← lastPassphrase, Option.or_some] at last
  exact Option.some.inj last

theorem Findings.words_after :
    (findings.after items).words.toList = findings.words.toList ++ wordsIn items := by
  induction items generalizing findings with
  | nil => exact (List.append_nil _).symm
  | cons item rest ih =>
    have later : (findings.after (item :: rest)).words.toList =
        (findings.add item).words.toList ++ wordsIn rest := ih (findings.add item)
    rw [later]
    cases item with
    | word text => simp [add, wordsIn, Item.word?]
    | _ => rfl

end After

end MnemonicCode.CommandLine
