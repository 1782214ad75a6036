import MnemonicCode.Proofs.Settings.Acceptance
import Mathlib

/-!
# Names in settings

Settings have no names but their own: a text with another one is refused. The members of a
source are read more loosely. Those with other names are dropped, and the settings, or the
fault, are the same as without them (`ofJson_pruned`). Hence a text with an unknown name in
its source is refused only when it is refused without that member too
(`ofText_keeps_names_iff`), and a pin whose name is misspelled is no pin
(`ofText_misspelledPin`).
-/

set_option autoImplicit false

namespace MnemonicCode.Settings

/-! ## Names at both levels -/

/-- The members of an object. -/
def membersOf : Json → List (String × Json)
  | .object members _ => members
  | _ => []

/-- The values for the source: under its name in an object, or the second item. -/
def sourceValues : Json → List Json
  | .object members _ => valuesOf "wordlist" members
  | .array items _ => (items.drop 1).take 1
  | _ => []

/-- The names of the members of a source. -/
def sourceNames : List String := ["source", "path", "sha256"]

/-- All names are those of a source. -/
def KnownSourceNames (members : List (String × Json)) : Prop :=
  ∀ member ∈ members, member.1 ∈ sourceNames

/-- All names are known, those of settings and those of a source in settings. -/
structure KnownThroughout (value : Json) : Prop where
  top : KnownNames (membersOf value)
  nested : ∀ source ∈ sourceValues value, KnownSourceNames (membersOf source)

/-! ## Names that are dropped -/

section Pruned

variable {members : List (String × Json)} {value : Json}

/-- The members with the names of a source. -/
def prunedMembers (members : List (String × Json)) : List (String × Json) :=
  members.filter fun member => member.1 ∈ sourceNames

/-- A source without the members that have other names. -/
def prunedSource : Json → Json
  | .object members ending => .object (prunedMembers members) ending
  | value => value

/-- A member of settings, with its source pruned if it holds one. -/
def prunedMember (member : String × Json) : String × Json :=
  if member.1 = "wordlist" then (member.1, prunedSource member.2) else member

/-- Settings whose source is without the members that have other names. -/
def pruned : Json → Json
  | .object members ending => .object (members.map prunedMember) ending
  | .array (strength :: source :: rest) ending =>
    .array (strength :: prunedSource source :: rest) ending
  | value => value

theorem prunedMembers_cons_of_mem {name : String} (known : name ∈ sourceNames)
    (rest : List (String × Json)) :
    prunedMembers ((name, value) :: rest) = (name, value) :: prunedMembers rest := by
  simp [prunedMembers, known]

theorem prunedMembers_cons_of_notMem {name : String} (unknown : name ∉ sourceNames)
    (rest : List (String × Json)) :
    prunedMembers ((name, value) :: rest) = prunedMembers rest := by
  simp [prunedMembers, unknown]

/-- The reader of a file passes over members with other names. -/
theorem fileMembers_pruned (path : Option String) (pin : Option (Option String)) :
    fileMembers path pin (prunedMembers members) = fileMembers path pin members := by
  induction members generalizing path pin with
  | nil => rfl
  | cons member rest ih =>
    obtain ⟨name, value⟩ := member
    by_cases isPath : name = "path"
    · subst isPath
      rw [prunedMembers_cons_of_mem (by decide), fileMembers_path, fileMembers_path]
      simp only [ih]
    · by_cases isPin : name = "sha256"
      · subst isPin
        rw [prunedMembers_cons_of_mem (by decide), fileMembers_pin, fileMembers_pin]
        simp only [ih]
      · rw [fileMembers_other isPath isPin, ← ih path pin]
        by_cases known : name ∈ sourceNames
        · rw [prunedMembers_cons_of_mem known, fileMembers_other isPath isPin]
        · rw [prunedMembers_cons_of_notMem known]

/-- The reader of a source keeps members with other names, and has the same result for the
rest without them. -/
theorem sourceMembers_pruned (whole : Json.membersFault? members = none) (kind : Option Kind)
    (others : List (String × Json)) :
    sourceMembers kind (prunedMembers others) none (prunedMembers members) =
      (sourceMembers kind others none members).map fun found =>
        (found.1, prunedMembers found.2) := by
  induction members generalizing kind others with
  | nil =>
    cases kind with
    | none => rfl
    | some kind =>
      change Except.ok (kind, (prunedMembers others).reverse) =
        Except.ok (kind, prunedMembers others.reverse)
      rw [prunedMembers, prunedMembers, List.filter_reverse]
  | cons member rest ih =>
    obtain ⟨name, value⟩ := member
    obtain ⟨valueWhole, restWhole⟩ := (membersFault?_cons name rest).mp whole
    by_cases isKind : name = "source"
    · subst isKind
      rw [prunedMembers_cons_of_mem (by decide), sourceMembers_kind, sourceMembers_kind]
      cases kind with
      | some kind => rfl
      | none =>
        cases read : kindOf value with
        | error fault =>
          simp only [readNext, read]
          rfl
        | ok kind =>
          simp only [readNext, read]
          exact ih restWhole (some kind) others
    · rw [sourceMembers_other isKind valueWhole, ← ih restWhole]
      by_cases known : name ∈ sourceNames
      · rw [prunedMembers_cons_of_mem known, sourceMembers_other isKind valueWhole,
          prunedMembers_cons_of_mem known]
      · rw [prunedMembers_cons_of_notMem known, prunedMembers_cons_of_notMem known]

/-- A source is the same, or is refused for the same fault, without the members that have
other names. -/
theorem sourceOf_pruned (whole : value.fault? = none) :
    sourceOf (prunedSource value) = sourceOf value := by
  cases value with
  | object members ending =>
    obtain ⟨membersWhole, rfl⟩ := fault?_object.mp whole
    have read : sourceMembers none [] none (prunedMembers members) = _ :=
      sourceMembers_pruned membersWhole none []
    rw [prunedSource, sourceOf_object, sourceOf_object, read]
    cases sourceMembers none [] none members with
    | error fault => rfl
    | ok found =>
      obtain ⟨kind, others⟩ := found
      cases kind with
      | embedded => rfl
      | file => exact fileMembers_pruned none none
  | _ => rfl

theorem prunedMember_source (value : Json) :
    prunedMember ("wordlist", value) = ("wordlist", prunedSource value) :=
  if_pos rfl

theorem prunedMember_other {name : String} (differs : name ≠ "wordlist") (value : Json) :
    prunedMember (name, value) = (name, value) :=
  if_neg differs

theorem settingsMembers_pruned (whole : Json.membersFault? members = none)
    (strength : Option Strength) (source : Option WordListSource) :
    settingsMembers strength source none (members.map prunedMember) =
      settingsMembers strength source none members := by
  induction members generalizing strength source with
  | nil => rfl
  | cons member rest ih =>
    obtain ⟨name, value⟩ := member
    obtain ⟨valueWhole, restWhole⟩ := (membersFault?_cons name rest).mp whole
    rw [List.map_cons]
    by_cases isSource : name = "wordlist"
    · subst isSource
      rw [prunedMember_source, settingsMembers_source, settingsMembers_source]
      cases source with
      | some source => rfl
      | none => simp only [readNext, sourceOf_pruned valueWhole, ih restWhole]
    · rw [prunedMember_other isSource]
      by_cases isStrength : name = "entropy_bits"
      · subst isStrength
        rw [settingsMembers_strength, settingsMembers_strength]
        simp only [ih restWhole]
      · rw [settingsMembers_other isStrength isSource, settingsMembers_other isStrength isSource]

/-- **Settings are the same, or are refused for the same fault, without the members of a
source that have other names.** -/
theorem ofJson_pruned (whole : value.fault? = none) : ofJson (pruned value) = ofJson value := by
  cases value with
  | object members ending =>
    obtain ⟨membersWhole, rfl⟩ := fault?_object.mp whole
    exact settingsMembers_pruned membersWhole none none
  | array items ending =>
    rcases items with _ | ⟨strength, _ | ⟨source, rest⟩⟩
    · rfl
    · rfl
    · have sourceWhole : source.fault? = none := by
        have itemsWhole := (Option.or_eq_none_iff.mp whole).1
        exact (Option.or_eq_none_iff.mp (Option.or_eq_none_iff.mp itemsWhole).2).1
      change settingsItems (strength :: prunedSource source :: rest) ending =
        settingsItems (strength :: source :: rest) ending
      simp only [settingsItems, sourceOf_pruned sourceWhole]
  | _ => rfl

theorem knownSourceNames_pruned : KnownSourceNames (prunedMembers members) :=
  fun _ member => of_decide_eq_true (List.mem_filter.mp member).2

theorem membersOf_prunedSource :
    membersOf (prunedSource value) = prunedMembers (membersOf value) := by
  cases value <;> rfl

theorem valuesOf_pruned :
    valuesOf "wordlist" (members.map prunedMember) =
      (valuesOf "wordlist" members).map prunedSource := by
  induction members with
  | nil => rfl
  | cons member rest ih =>
    obtain ⟨name, value⟩ := member
    rw [List.map_cons]
    by_cases isSource : name = "wordlist"
    · subst isSource
      rw [prunedMember_source, valuesOf_cons_same, valuesOf_cons_same, ih, List.map_cons]
    · rw [prunedMember_other isSource, valuesOf_cons_other isSource, valuesOf_cons_other isSource,
        ih]

theorem sourceValues_pruned :
    sourceValues (pruned value) = (sourceValues value).map prunedSource := by
  cases value with
  | object members ending => exact valuesOf_pruned
  | array items ending => rcases items with _ | ⟨strength, _ | ⟨source, rest⟩⟩ <;> rfl
  | _ => rfl

theorem knownNames_pruned :
    KnownNames (membersOf (pruned value)) ↔ KnownNames (membersOf value) := by
  cases value with
  | object members ending =>
    have name : ∀ member, (prunedMember member).1 = member.1 := by
      intro member
      rw [prunedMember]
      split <;> rfl
    simp only [KnownNames, pruned, membersOf, List.forall_mem_map, name]
  | array items ending => rcases items with _ | ⟨strength, _ | ⟨source, rest⟩⟩ <;> rfl
  | _ => rfl

/-- Pruning leaves the names of the settings, and only the names of a source in a source. -/
theorem knownThroughout_pruned_iff :
    KnownThroughout (pruned value) ↔ KnownNames (membersOf value) := by
  constructor
  · exact fun known => knownNames_pruned.mp known.top
  · intro known
    refine ⟨knownNames_pruned.mpr known, fun source given => ?_⟩
    rw [sourceValues_pruned] at given
    obtain ⟨loose, -, rfl⟩ := List.mem_map.mp given
    rw [membersOf_prunedSource]
    exact knownSourceNames_pruned

/-- The names of settings that are read are known. -/
theorem knownNames_of_ofJson {settings : Settings} (read : ofJson value = .ok settings) :
    KnownNames (membersOf value) := by
  rw [ofJson.eq_def] at read
  split at read
  · obtain ⟨-, rfl⟩ := whole_of_settingsMembers read
    obtain ⟨_, _, _, _, known, _⟩ := settingsMembers_eq_ok_iff.mp read
    exact known
  · exact List.forall_mem_nil _
  · exact absurd read (unexpected_ne_ok _ _ _)

end Pruned

/-! ## Accepted texts -/

/-- **Unknown names of settings are refused, those of a source are dropped.** A text that is
accepted is JSON whose settings have no unknown names. A JSON text is read as if its source
had no members with other names; so its acceptance speaks for its names exactly when they
are all known, or when it is refused without these members too. -/
theorem ofText_keeps_names_iff (text : String) :
    (∀ settings, ofText text = .ok settings →
      ∃ value, Json.parse text = .ok value ∧ KnownNames (membersOf value)) ∧
    ∀ value, Json.parse text = .ok value →
      ofText text = ofJson (pruned value) ∧
      (KnownThroughout (pruned value) ↔ KnownNames (membersOf value)) ∧
      (((∃ settings, ofText text = .ok settings) → KnownThroughout value) ↔
        KnownThroughout value ∨ ∀ settings, ofJson (pruned value) ≠ .ok settings) := by
  refine ⟨fun settings read => ?_, fun value parsed => ?_⟩
  · obtain ⟨value, parsed, readValue⟩ := exists_parse_of_ofText read
    exact ⟨value, parsed, knownNames_of_ofJson readValue⟩
  · have same : ofText text = ofJson (pruned value) := by
      rw [ofText_of_parse parsed, ofJson_pruned ((Json.read_of_parse parsed).2)]
    refine ⟨same, knownThroughout_pruned_iff, ?_⟩
    rw [same, imp_iff_or_not, not_exists]

/-! ## A misspelled pin -/

/-- Settings that ask for a file and misspell the name of its pin. -/
def misspelledPin : Json :=
  .object [("wordlist", .object [("source", .string "file"), ("path", .string "words.txt"),
    ("sha265", .string "2f5eed53a4727b4bf8880d8f3f199efc90e58503646d9ff8eff3a2ed3b24dbda")]
    none)] none

/-- **A pin whose name is misspelled is no pin**, and the settings are accepted all the
same. -/
theorem ofText_misspelledPin :
    Json.parse misspelledPin.compact = .ok misspelledPin ∧
      ¬ KnownThroughout misspelledPin ∧
      ofText misspelledPin.compact = .ok ⟨.bits128, .file "words.txt" none⟩ := by
  have writable : Json.Writable misspelledPin := by
    simp [misspelledPin, Json.Writable, Json.WritableMembers]
  have shallow : misspelledPin.depth ≤ Json.nestingLimit := by decide
  have parsed := (Json.parse_written writable shallow).1
  refine ⟨parsed, fun known => ?_, ?_⟩
  · have nested := known.nested _ (List.mem_singleton.mpr rfl)
    have misspelled : "sha265" ∈ sourceNames := nested _ (.tail _ (.tail _ (.head _)))
    exact absurd misspelled (by decide)
  · rw [ofText_of_parse parsed]
    rfl

end MnemonicCode.Settings
