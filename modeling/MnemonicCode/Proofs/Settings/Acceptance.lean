import MnemonicCode.Proofs.Settings.Meaning
import Mathlib

/-!
# What is read of accepted settings

A text is accepted as settings only when it is JSON as a whole (`exists_parse_of_ofText`),
although the readers take the tree as far as it goes and judge it on the way. So the value
of an accepted text tells everything about it: the strength is given by the values in its
place (`givesStrength_of_ofJson`).
-/

set_option autoImplicit false

namespace MnemonicCode.Settings

/-! ## Whole values -/

section Whole

variable {value : Json} {members : List (String × Json)} {ending : Option Json.Fault}

/-- A reading in two steps that succeeds has succeeded in both. -/
theorem exists_of_bind {α β : Type} {first : Except ReadFault α} {next : α → Except ReadFault β}
    {result : β} (read : (first >>= next) = .ok result) :
    ∃ found, first = .ok found ∧ next found = .ok result := by
  cases first with
  | error fault => cases read
  | ok found => exact ⟨found, rfl, read⟩

/-- A reading that goes on after a check has passed it. -/
theorem of_unbroken_bind {α : Type} {fault : Option Json.Fault}
    {next : Unit → Except ReadFault α} {result : α}
    (read : (unbroken fault >>= next) = .ok result) : fault = none ∧ next () = .ok result := by
  cases fault with
  | none => exact ⟨rfl, read⟩
  | some fault => cases read

theorem fault?_of_strengthOf {strength : Strength} (read : strengthOf value = .ok strength) :
    value.fault? = none := by
  rw [strengthOf_eq_ok_iff.mp read]
  rfl

theorem fault?_of_kindOf {kind : Kind} (read : kindOf value = .ok kind) : value.fault? = none := by
  rw [kindOf_eq_ok_iff.mp read]
  rfl

theorem membersFault?_cons (name : String) (rest : List (String × Json)) :
    Json.membersFault? ((name, value) :: rest) = none ↔
      value.fault? = none ∧ Json.membersFault? rest = none :=
  Option.or_eq_none_iff

theorem fault?_object :
    (Json.object members ending).fault? = none ↔
      Json.membersFault? members = none ∧ ending = none :=
  Option.or_eq_none_iff

/-- The members of a source that is read are whole. -/
theorem whole_of_sourceMembers {kind : Option Kind} {others : List (String × Json)}
    {found : Kind × List (String × Json)}
    (read : sourceMembers kind others ending members = .ok found) :
    Json.membersFault? members = none ∧ ending = none := by
  fun_induction sourceMembers kind others ending members with
  | case1 kind others => exact ⟨rfl, (of_unbroken_bind read).1⟩
  | case2 => cases read
  | case3 others value rest ih =>
    obtain ⟨kind, readKind, later⟩ := exists_of_bind read
    obtain ⟨restWhole, closed⟩ := ih kind later
    exact ⟨(membersFault?_cons _ rest).mpr ⟨fault?_of_kindOf readKind, restWhole⟩, closed⟩
  | case4 kind others name value rest other ih =>
    obtain ⟨valueWhole, later⟩ := of_unbroken_bind read
    obtain ⟨restWhole, closed⟩ := ih later
    exact ⟨(membersFault?_cons name rest).mpr ⟨valueWhole, restWhole⟩, closed⟩

/-- A source that is read is whole. -/
theorem fault?_of_sourceOf {source : WordListSource} (read : sourceOf value = .ok source) :
    value.fault? = none := by
  rw [sourceOf.eq_def] at read
  split at read
  · next members ending =>
    obtain ⟨found, readMembers, -⟩ := exists_of_bind read
    exact fault?_object.mpr (whole_of_sourceMembers readMembers)
  · cases (of_unbroken_bind read).2
  · next first rest ending =>
    obtain ⟨kind, readKind, later⟩ := exists_of_bind read
    have whole := (of_unbroken_bind later).1
    change ((first.fault?.or (Json.itemsFault? rest)).or ending) = none
    rw [fault?_of_kindOf readKind, Option.none_or, whole]
  · exact absurd read (unexpected_ne_ok _ _ _)

/-- The members of settings that are read are whole. -/
theorem whole_of_settingsMembers {strength : Option Strength} {source : Option WordListSource}
    {settings : Settings} (read : settingsMembers strength source ending members = .ok settings) :
    Json.membersFault? members = none ∧ ending = none := by
  fun_induction settingsMembers strength source ending members with
  | case1 => exact ⟨rfl, (of_unbroken_bind read).1⟩
  | case3 source value rest ih =>
    obtain ⟨strength, readStrength, later⟩ := exists_of_bind read
    obtain ⟨restWhole, closed⟩ := ih strength later
    exact ⟨(membersFault?_cons _ rest).mpr ⟨fault?_of_strengthOf readStrength, restWhole⟩, closed⟩
  | case5 strength value rest differs ih =>
    obtain ⟨source, readSource, later⟩ := exists_of_bind read
    obtain ⟨restWhole, closed⟩ := ih source later
    exact ⟨(membersFault?_cons _ rest).mpr ⟨fault?_of_sourceOf readSource, restWhole⟩, closed⟩
  | _ => cases read

/-- Settings that are given as a list of items. -/
inductive ReadsItems : List Json → Settings → Prop where
  | none : ReadsItems [] standard
  | strength {first : Json} {strength : Strength} (accepted : strengthOf first = .ok strength) :
      ReadsItems [first] { standard with strength }
  | both {first second : Json} {strength : Strength} {source : WordListSource}
      (accepted : strengthOf first = .ok strength) (found : sourceOf second = .ok source) :
      ReadsItems [first, second] ⟨strength, source⟩

theorem readsItems_of_settingsItems {items : List Json} {settings : Settings}
    (read : settingsItems items ending = .ok settings) :
    ending = none ∧ ReadsItems items settings := by
  rw [settingsItems.eq_def] at read
  split at read
  · obtain ⟨closed, same⟩ := of_unbroken_bind read
    cases same
    exact ⟨closed, .none⟩
  · obtain ⟨strength, accepted, later⟩ := exists_of_bind read
    obtain ⟨closed, same⟩ := of_unbroken_bind later
    cases same
    exact ⟨closed, .strength accepted⟩
  · next first second rest =>
    obtain ⟨strength, accepted, later⟩ := exists_of_bind read
    obtain ⟨source, found, last⟩ := exists_of_bind later
    cases rest with
    | nil =>
      obtain ⟨closed, same⟩ := of_unbroken_bind last
      cases same
      exact ⟨closed, .both accepted found⟩
    | cons third rest => cases last

/-- Settings that are read are whole. -/
theorem fault?_of_ofJson {settings : Settings} (read : ofJson value = .ok settings) :
    value.fault? = none := by
  rw [ofJson.eq_def] at read
  split at read
  · exact fault?_object.mpr (whole_of_settingsMembers read)
  · obtain ⟨rfl, items⟩ := readsItems_of_settingsItems read
    cases items with
    | none => rfl
    | strength accepted =>
      simp only [Json.fault?, Json.itemsFault?, fault?_of_strengthOf accepted, Option.or_none]
    | both accepted found =>
      simp only [Json.fault?, Json.itemsFault?, fault?_of_strengthOf accepted,
        fault?_of_sourceOf found, Option.or_none]
  · exact absurd read (unexpected_ne_ok _ _ _)

/-! ## Texts -/

variable {text : String}

/-- A text without faults is read by its value. -/
theorem ofText_of_parse (parsed : Json.parse text = .ok value) : ofText text = ofJson value := by
  rw [ofText, ofDocument, (Json.read_of_parse parsed).1]
  cases ofJson value <;> rfl

/-- **A text that is accepted is JSON as a whole**, and it is read by its value. -/
theorem exists_parse_of_ofText {settings : Settings} (read : ofText text = .ok settings) :
    ∃ value, Json.parse text = .ok value ∧ ofJson value = .ok settings := by
  rw [ofText, ofDocument] at read
  obtain ⟨found, readValue, later⟩ := exists_of_bind read
  obtain ⟨ended, same⟩ := of_unbroken_bind later
  cases same
  refine ⟨(Json.read text).value, ?_, readValue⟩
  simp only [Json.parse, fault?_of_ofJson readValue, ended, Option.or_none]

/-- The content of a file is accepted when it is UTF-8 and its text is accepted. -/
theorem exists_text_of_ofContent {path : String} {content : Except File.Fault Octets}
    {settings : Settings} (read : ofContent path content = .ok settings) :
    ∃ octets text, content = .ok octets ∧ Utf8.decode octets = .ok text ∧
      ofText text = .ok settings := by
  cases content with
  | error fault => cases read
  | ok octets =>
    rw [ofContent] at read
    cases decoded : Utf8.decode octets with
    | error fault =>
      rw [decoded] at read
      cases read
    | ok text =>
      simp only [decoded] at read
      cases accepted : ofText text with
      | error fault =>
        rw [accepted] at read
        cases read
      | ok found =>
        rw [accepted] at read
        cases read
        exact ⟨octets, text, rfl, decoded, accepted⟩

end Whole

/-! ## The strength -/

/-- The values for the strength: under its name in an object, or the first item. -/
def strengthValues : Json → List Json
  | .object members _ => valuesOf "entropy_bits" members
  | .array items _ => items.take 1
  | _ => []

/-- **The strength is the one that is given in its place**, or the standard one. -/
theorem givesStrength_of_ofJson {value : Json} {settings : Settings}
    (read : ofJson value = .ok settings) :
    GivesStrength (strengthValues value) settings.strength := by
  rw [ofJson.eq_def] at read
  split at read
  · next members ending =>
    obtain ⟨-, rfl⟩ := whole_of_settingsMembers read
    obtain ⟨found, once, _, _, _, same⟩ := settingsMembers_eq_ok_iff.mp read
    exact exists_readOnce_strength_iff.mp ⟨found, once, congrArg Settings.strength same⟩
  · next items ending =>
    have given : ∀ {first strength}, strengthOf first = .ok strength →
        GivesStrength [first] strength := by
      intro first strength accepted
      rw [strengthOf_eq_ok_iff.mp accepted]
      exact .bits strength
    cases (readsItems_of_settingsItems read).2 with
    | none => exact .absent
    | strength accepted => exact given accepted
    | both accepted _ => exact given accepted
  · exact absurd read (unexpected_ne_ok _ _ _)

end MnemonicCode.Settings
