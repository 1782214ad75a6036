import MnemonicCode.Proofs.Settings.RoundTrip
import Mathlib

/-!
# The meaning of settings

A text whose value is an object is read as settings exactly when its members describe them
(`ofText_eq_ok_iff_describes`). A description is about the values under each name, so the
order of the members, the gaps between tokens and the escapes in strings play no part in
it. Every name has one value or none, and what is absent has its standard value. The kind
of a source may stand after its path and pin, which are of no account for the standard
English list; members of a source with other names are of no account at all.

The readers go through the members once and carry along what they have found. What such a
reader finds under one name is `ReadOnce`, and each of them is described by it, by
induction on the members with everything found before.
-/

set_option autoImplicit false

namespace MnemonicCode.Settings

open Json (SpellsDocument)

/-! ## Descriptions -/

/-- The values of the members with this name, in order. -/
def valuesOf (name : String) (members : List (String × Json)) : List Json :=
  (members.filter fun member => member.1 = name).map Prod.snd

/-- The values under `entropy_bits` give the strength. -/
inductive GivesStrength : List Json → Strength → Prop where
  | absent : GivesStrength [] .bits128
  | bits (strength : Strength) : GivesStrength [.number (.natural strength.bits)] strength

/-- The values under `sha256` give the pin. -/
inductive GivesPin : List Json → Option String → Prop where
  | absent : GivesPin [] none
  | null : GivesPin [.null] none
  | text (pin : String) : GivesPin [.string pin] (some pin)

/-- The members of an object describe the source of a word list. -/
inductive DescribesSource (members : List (String × Json)) : WordListSource → Prop where
  | embedded (kind : valuesOf "source" members = [.string "embedded"]) :
      DescribesSource members .embedded
  | file {path : String} {pin : Option String}
      (kind : valuesOf "source" members = [.string "file"])
      (located : valuesOf "path" members = [.string path])
      (pinned : GivesPin (valuesOf "sha256" members) pin) :
      DescribesSource members (.file path pin)

/-- The values under `wordlist` give the source. -/
inductive GivesSource : List Json → WordListSource → Prop where
  | absent : GivesSource [] .embedded
  | object {members : List (String × Json)} {source : WordListSource}
      (described : DescribesSource members source) : GivesSource [.object members none] source

/-- All names are those of settings. -/
def KnownNames (members : List (String × Json)) : Prop :=
  ∀ member ∈ members, member.1 = "entropy_bits" ∨ member.1 = "wordlist"

/-- The members of an object describe settings. -/
structure Describes (members : List (String × Json)) (settings : Settings) : Prop where
  names : KnownNames members
  strength : GivesStrength (valuesOf "entropy_bits" members) settings.strength
  source : GivesSource (valuesOf "wordlist" members) settings.source

/-! ## Values under one name -/

section Once

variable {name other : String} {value : Json} {rest : List (String × Json)}

theorem valuesOf_cons_same :
    valuesOf name ((name, value) :: rest) = value :: valuesOf name rest := by
  simp [valuesOf]

theorem valuesOf_cons_other (differs : other ≠ name) :
    valuesOf name ((other, value) :: rest) = valuesOf name rest := by
  simp [valuesOf, differs]

/-- Members with another name may be left out. -/
theorem valuesOf_filter (differs : name ≠ other) (members : List (String × Json)) :
    valuesOf name (members.filter fun member => member.1 ≠ other) = valuesOf name members := by
  rw [valuesOf, valuesOf, List.filter_filter]
  congr 1
  refine List.filter_congr fun member _ => ?_
  by_cases same : member.1 = name
  · simp [same, differs]
  · simp [same]

variable {α : Type} {read : Json → Except ReadFault α} {found : α} {before after : Option α}
  {values : List Json}

/-- What is found in the values under one name, after what was found before: there is one
value or none, and it is read. -/
inductive ReadOnce (read : Json → Except ReadFault α) :
    Option α → List Json → Option α → Prop where
  | nothing {before : Option α} : ReadOnce read before [] before
  | value {value : Json} {found : α} (accepted : read value = .ok found) :
      ReadOnce read none [value] (some found)

theorem readOnce_nil_iff : ReadOnce read before [] after ↔ after = before := by
  constructor
  · rintro ⟨⟩
    rfl
  · rintro rfl
    exact .nothing

/-- The first value is read, and no second one may follow. -/
theorem readOnce_cons_iff :
    ReadOnce read none (value :: values) after ↔
      ∃ found, read value = .ok found ∧ ReadOnce read (some found) values after := by
  constructor
  · rintro ⟨⟩
    exact ⟨_, ‹_›, .nothing⟩
  · rintro ⟨found, accepted, ⟨⟩⟩
    exact .value accepted

theorem readOnce_some_iff :
    ReadOnce read none values (some found) ↔
      ∃ value, values = [value] ∧ read value = .ok found := by
  constructor
  · rintro ⟨⟩
    exact ⟨_, rfl, ‹_›⟩
  · rintro ⟨value, rfl, accepted⟩
    exact .value accepted

theorem not_readOnce_cons : ¬ ReadOnce read (some found) (value :: values) after := nofun

/-- One step of a reader at a member whose name may stand once: the value is read unless
there was one before, and the reader goes on with what was found. -/
def readNext {β : Type} (read : Json → Except ReadFault α) (name : String) (before : Option α)
    (value : Json) (next : α → Except ReadFault β) : Except ReadFault β :=
  match before with
  | some _ => mismatch (.repeatedMember name)
  | none => do next (← read value)

/-- What the reader finds from this member on is what it finds under the name, if that
holds of the members after it. -/
theorem readNext_eq_ok_iff {β : Type} {next : α → Except ReadFault β} {result : β}
    {whole : Option α → Prop}
    (tail : ∀ found, next found = .ok result ↔
      ∃ after, ReadOnce read (some found) values after ∧ whole after) :
    readNext read name before value next = .ok result ↔
      ∃ after, ReadOnce read before (value :: values) after ∧ whole after := by
  cases before with
  | some found =>
    constructor
    · exact nofun
    · rintro ⟨after, twice, -⟩
      exact absurd twice not_readOnce_cons
  | none =>
    simp only [readOnce_cons_iff]
    cases accepted : read value with
    | error fault =>
      constructor
      · rw [readNext, accepted]
        exact nofun
      · rintro ⟨after, ⟨found, ⟨⟩, -⟩, -⟩
    | ok found =>
      rw [readNext, accepted]
      refine (tail found).trans ?_
      constructor
      · rintro ⟨after, once, holds⟩
        exact ⟨after, ⟨found, rfl, once⟩, holds⟩
      · rintro ⟨after, ⟨_, ⟨⟩, once⟩, holds⟩
        exact ⟨after, once, holds⟩

/-- What is found under two names does not depend on which is looked for first. -/
theorem exists_swap {β : Type} {left : Option α → Prop} {right : Option β → Prop}
    {both : Option α → Option β → Prop} :
    (∃ first, left first ∧ ∃ second, right second ∧ both first second) ↔
      ∃ second, right second ∧ ∃ first, left first ∧ both first second :=
  ⟨fun ⟨first, isFirst, second, isSecond, holds⟩ => ⟨second, isSecond, first, isFirst, holds⟩,
    fun ⟨second, isSecond, first, isFirst, holds⟩ => ⟨first, isFirst, second, isSecond, holds⟩⟩

end Once

/-! ## Single values -/

theorem unexpected_ne_ok {α : Type} (value : Json) (expected : Expectation) (result : α) :
    unexpected value expected ≠ .ok result := by
  cases value <;> exact nofun

theorem strengthOf_eq_ok_iff {value : Json} {strength : Strength} :
    strengthOf value = .ok strength ↔ value = .number (.natural strength.bits) := by
  constructor
  · intro read
    rw [strengthOf.eq_def] at read
    split at read
    · split at read
      · split at read
        · next known =>
          cases read
          rw [Strength.bits_of_ofBits known]
        · cases read
      · cases read
    · cases read
    · exact absurd read (unexpected_ne_ok _ _ _)
  · rintro rfl
    cases strength <;> rfl

theorem pathOf_eq_ok_iff {value : Json} {path : String} :
    pathOf value = .ok path ↔ value = .string path := by
  constructor
  · intro read
    rw [pathOf.eq_def] at read
    split at read
    · cases read
      rfl
    · exact absurd read (unexpected_ne_ok _ _ _)
  · rintro rfl
    rfl

theorem pinOf_eq_ok_iff {value : Json} {pin : Option String} :
    pinOf value = .ok pin ↔ GivesPin [value] pin := by
  constructor
  · intro read
    rw [pinOf.eq_def] at read
    split at read
    · cases read
      exact .null
    · cases read
      exact .text _
    · exact absurd read (unexpected_ne_ok _ _ _)
  · rintro ⟨⟩ <;> rfl

/-- The word for a kind of source. -/
def Kind.word : Kind → String
  | embedded => "embedded"
  | file => "file"

theorem kindOf_eq_ok_iff {value : Json} {kind : Kind} :
    kindOf value = .ok kind ↔ value = .string kind.word := by
  constructor
  · intro read
    rw [kindOf.eq_def] at read
    split at read
    · split at read
      · next same =>
        cases read
        rw [same]
        rfl
      · split at read
        · next same =>
          cases read
          rw [same]
          rfl
        · cases read
    · exact absurd read (unexpected_ne_ok _ _ _)
  · rintro rfl
    cases kind <;> rfl

/-! ## Members -/

section Members

variable {members : List (String × Json)}

section File

variable {path : Option String} {pin : Option (Option String)} {source : WordListSource}

theorem fileMembers_path (value : Json) (rest : List (String × Json)) :
    fileMembers path pin (("path", value) :: rest) =
      readNext pathOf pathName path value fun found => fileMembers (some found) pin rest := by
  cases path <;> rfl

theorem fileMembers_pin (value : Json) (rest : List (String × Json)) :
    fileMembers path pin (("sha256", value) :: rest) =
      readNext pinOf pinName pin value fun found => fileMembers path (some found) rest := by
  cases pin <;> rfl

theorem fileMembers_other {name : String} (noPath : name ≠ "path") (noPin : name ≠ "sha256")
    (value : Json) (rest : List (String × Json)) :
    fileMembers path pin ((name, value) :: rest) = fileMembers path pin rest := by
  rw [fileMembers.eq_def]
  exact (if_neg noPath).trans (if_neg noPin)

/-- What is found of a file: a path, and a pin or none. -/
def FoundFile (source : WordListSource) (path : Option String) (pin : Option (Option String)) :
    Prop :=
  ∃ location, path = some location ∧ source = .file location (pin.getD none)

/-- The reader of a file finds one path, and one pin or none. -/
theorem fileMembers_eq_ok_iff :
    fileMembers path pin members = .ok source ↔
      ∃ foundPath, ReadOnce pathOf path (valuesOf "path" members) foundPath ∧
        ∃ foundPin, ReadOnce pinOf pin (valuesOf "sha256" members) foundPin ∧
          FoundFile source foundPath foundPin := by
  induction members generalizing path pin with
  | nil =>
    simp only [valuesOf, List.filter_nil, List.map_nil, readOnce_nil_iff, exists_eq_left]
    cases path with
    | none =>
      constructor
      · exact nofun
      · rintro ⟨_, ⟨⟩, -⟩
    | some path =>
      constructor
      · rintro ⟨⟩
        exact ⟨path, rfl, rfl⟩
      · rintro ⟨_, ⟨⟩, rfl⟩
        rfl
  | cons member rest ih =>
    obtain ⟨name, value⟩ := member
    by_cases isPath : name = "path"
    · subst isPath
      rw [fileMembers_path, valuesOf_cons_same, valuesOf_cons_other (by decide)]
      exact readNext_eq_ok_iff fun found => ih
    · by_cases isPin : name = "sha256"
      · subst isPin
        rw [fileMembers_pin, valuesOf_cons_same, valuesOf_cons_other (by decide), exists_swap]
        exact readNext_eq_ok_iff fun found => ih.trans exists_swap
      · rw [fileMembers_other isPath isPin, valuesOf_cons_other isPath, valuesOf_cons_other isPin]
        exact ih

end File

section Source

variable {kind : Option Kind} {others : List (String × Json)}

/-- The members of a source but for its kind. -/
def otherMembers (members : List (String × Json)) : List (String × Json) :=
  members.filter fun member => member.1 ≠ "source"

theorem sourceMembers_kind (value : Json) (rest : List (String × Json)) :
    sourceMembers kind others none (("source", value) :: rest) =
      readNext kindOf kindName kind value fun found =>
        sourceMembers (some found) others none rest := by
  cases kind <;> rfl

theorem sourceMembers_other {name : String} {value : Json} (other : name ≠ "source")
    (whole : value.fault? = none) (rest : List (String × Json)) :
    sourceMembers kind others none ((name, value) :: rest) =
      sourceMembers kind ((name, value) :: others) none rest := by
  rw [sourceMembers.eq_def]
  refine (if_neg other).trans ?_
  rw [whole]
  rfl

/-- The reader of a source finds one kind and keeps the other members as they are. -/
theorem sourceMembers_eq_ok_iff (whole : Json.membersFault? members = none)
    {found : Kind × List (String × Json)} :
    sourceMembers kind others none members = .ok found ↔
      ∃ foundKind, ReadOnce kindOf kind (valuesOf "source" members) foundKind ∧
        foundKind = some found.1 ∧ found.2 = others.reverse ++ otherMembers members := by
  induction members generalizing kind others with
  | nil =>
    simp only [valuesOf, otherMembers, List.filter_nil, List.map_nil, readOnce_nil_iff,
      exists_eq_left, List.append_nil]
    cases kind with
    | none =>
      constructor
      · exact nofun
      · rintro ⟨⟨⟩, -⟩
    | some kind =>
      constructor
      · rintro ⟨⟩
        exact ⟨rfl, rfl⟩
      · obtain ⟨_, _⟩ := found
        rintro ⟨⟨⟩, ⟨⟩⟩
        rfl
  | cons member rest ih =>
    obtain ⟨name, value⟩ := member
    obtain ⟨valueWhole, restWhole⟩ := Option.or_eq_none_iff.mp whole
    by_cases isKind : name = "source"
    · subst isKind
      have left : otherMembers (("source", value) :: rest) = otherMembers rest := by
        simp [otherMembers]
      rw [sourceMembers_kind, valuesOf_cons_same, left]
      exact readNext_eq_ok_iff fun found => ih restWhole
    · have left : otherMembers ((name, value) :: rest) = (name, value) :: otherMembers rest := by
        simp [otherMembers, isKind]
      rw [sourceMembers_other isKind valueWhole, valuesOf_cons_other isKind, left, ih restWhole,
        List.reverse_cons, List.append_assoc, List.singleton_append]

end Source

section Whole

variable {strength : Option Strength} {source : Option WordListSource} {settings : Settings}

theorem settingsMembers_strength (value : Json) (rest : List (String × Json)) :
    settingsMembers strength source none (("entropy_bits", value) :: rest) =
      readNext strengthOf strengthName strength value fun found =>
        settingsMembers (some found) source none rest := by
  cases strength <;> rfl

theorem settingsMembers_source (value : Json) (rest : List (String × Json)) :
    settingsMembers strength source none (("wordlist", value) :: rest) =
      readNext sourceOf sourceName source value fun found =>
        settingsMembers strength (some found) none rest := by
  cases source <;> rfl

theorem settingsMembers_other {name : String} (noStrength : name ≠ "entropy_bits")
    (noSource : name ≠ "wordlist") (value : Json) (rest : List (String × Json)) :
    settingsMembers strength source none ((name, value) :: rest) =
      mismatch (.unknownMember name) := by
  rw [settingsMembers.eq_def]
  exact (if_neg noStrength).trans (if_neg noSource)

/-- The reader of settings finds one strength or none and one source or none, and no
other name. -/
theorem settingsMembers_eq_ok_iff :
    settingsMembers strength source none members = .ok settings ↔
      ∃ foundStrength, ReadOnce strengthOf strength (valuesOf "entropy_bits" members)
          foundStrength ∧
        ∃ foundSource, ReadOnce sourceOf source (valuesOf "wordlist" members) foundSource ∧
          KnownNames members ∧
            settings = ⟨foundStrength.getD .bits128, foundSource.getD .embedded⟩ := by
  induction members generalizing strength source with
  | nil =>
    simp only [valuesOf, List.filter_nil, List.map_nil, readOnce_nil_iff, exists_eq_left]
    constructor
    · rintro ⟨⟩
      exact ⟨nofun, rfl⟩
    · rintro ⟨-, rfl⟩
      rfl
  | cons member rest ih =>
    obtain ⟨name, value⟩ := member
    by_cases isStrength : name = "entropy_bits"
    · subst isStrength
      have known : KnownNames (("entropy_bits", value) :: rest) ↔ KnownNames rest := by
        simp [KnownNames]
      rw [settingsMembers_strength, valuesOf_cons_same, valuesOf_cons_other (by decide), known]
      exact readNext_eq_ok_iff fun found => ih
    · by_cases isSource : name = "wordlist"
      · subst isSource
        have known : KnownNames (("wordlist", value) :: rest) ↔ KnownNames rest := by
          simp [KnownNames]
        rw [settingsMembers_source, valuesOf_cons_same, valuesOf_cons_other (by decide), known,
          exists_swap]
        exact readNext_eq_ok_iff fun found => ih.trans exists_swap
      · rw [settingsMembers_other isStrength isSource]
        constructor
        · exact nofun
        · rintro ⟨_, _, _, _, known, -⟩
          exact absurd (known _ List.mem_cons_self) (by simp [isStrength, isSource])

end Whole

end Members

/-! ## Sources -/

section Objects

variable {members : List (String × Json)} {settings : Settings}

/-- One kind that is found is the word for it. -/
theorem readOnce_kind_iff {values : List Json} {kind : Kind} :
    ReadOnce kindOf none values (some kind) ↔ values = [.string kind.word] := by
  simp only [readOnce_some_iff, kindOf_eq_ok_iff, exists_eq_right]

theorem readOnce_path_iff {values : List Json} {path : String} :
    ReadOnce pathOf none values (some path) ↔ values = [.string path] := by
  simp only [readOnce_some_iff, pathOf_eq_ok_iff, exists_eq_right]

/-- A pin that is not found is no pin. -/
theorem exists_readOnce_pin_iff {values : List Json} {pin : Option String} :
    (∃ found, ReadOnce pinOf none values found ∧ pin = found.getD none) ↔ GivesPin values pin := by
  constructor
  · rintro ⟨found, ⟨⟩ | accepted, rfl⟩
    · exact .absent
    · exact pinOf_eq_ok_iff.mp accepted
  · intro given
    cases given with
    | absent => exact ⟨none, .nothing, rfl⟩
    | null => exact ⟨some none, .value rfl, rfl⟩
    | text pin => exact ⟨some (some pin), .value rfl, rfl⟩

theorem fileMembers_otherMembers {source : WordListSource} :
    fileMembers none none (otherMembers members) = .ok source ↔
      ∃ path pin, valuesOf "path" members = [.string path] ∧
        GivesPin (valuesOf "sha256" members) pin ∧ source = .file path pin := by
  rw [fileMembers_eq_ok_iff, otherMembers, valuesOf_filter (by decide),
    valuesOf_filter (by decide)]
  constructor
  · rintro ⟨_, foundPath, foundPin, once, path, rfl, rfl⟩
    exact ⟨path, _, readOnce_path_iff.mp foundPath, exists_readOnce_pin_iff.mp ⟨_, once, rfl⟩, rfl⟩
  · rintro ⟨path, pin, located, pinned, rfl⟩
    obtain ⟨found, once, rfl⟩ := exists_readOnce_pin_iff.mpr pinned
    exact ⟨some path, readOnce_path_iff.mpr located, found, once, path, rfl, rfl⟩

/-- The members of a source are read in two steps: the kind first, and the others by what
the kind asks for. -/
theorem sourceOf_object (members : List (String × Json)) :
    sourceOf (.object members none) = (do
      let found ← sourceMembers none [] none members
      match found.1 with
      | .embedded => return .embedded
      | .file => fileMembers none none found.2) :=
  rfl

theorem sourceMembers_none_eq_ok_iff (whole : Json.membersFault? members = none) {kind : Kind}
    {others : List (String × Json)} :
    sourceMembers none [] none members = .ok (kind, others) ↔
      valuesOf "source" members = [.string kind.word] ∧ others = otherMembers members := by
  rw [sourceMembers_eq_ok_iff whole]
  constructor
  · rintro ⟨_, once, rfl, rfl⟩
    exact ⟨readOnce_kind_iff.mp once, rfl⟩
  · rintro ⟨named, rfl⟩
    exact ⟨some kind, readOnce_kind_iff.mpr named, rfl, rfl⟩

/-- A source is read from an object exactly when the members describe it. -/
theorem sourceOf_object_eq_ok_iff (whole : Json.membersFault? members = none)
    {source : WordListSource} :
    sourceOf (.object members none) = .ok source ↔ DescribesSource members source := by
  rw [sourceOf_object]
  constructor
  · intro read
    cases found : sourceMembers none [] none members with
    | error fault =>
      rw [found] at read
      cases read
    | ok parts =>
      obtain ⟨kind, others⟩ := parts
      obtain ⟨named, rfl⟩ := (sourceMembers_none_eq_ok_iff whole).mp found
      rw [found] at read
      cases kind with
      | embedded =>
        cases read
        exact .embedded named
      | file =>
        obtain ⟨path, pin, located, pinned, rfl⟩ := fileMembers_otherMembers.mp read
        exact .file named located pinned
  · intro described
    cases described with
    | embedded kind =>
      have read : sourceMembers none [] none members = .ok (.embedded, otherMembers members) :=
        (sourceMembers_none_eq_ok_iff whole).mpr ⟨kind, rfl⟩
      rw [read]
      rfl
    | @file path pin kind located pinned =>
      have read : sourceMembers none [] none members = .ok (.file, otherMembers members) :=
        (sourceMembers_none_eq_ok_iff whole).mpr ⟨kind, rfl⟩
      rw [read]
      exact fileMembers_otherMembers.mpr ⟨path, pin, located, pinned, rfl⟩

/-! ## Settings -/

/-- Strengths that are found, or the standard one. -/
theorem exists_readOnce_strength_iff {values : List Json} {strength : Strength} :
    (∃ found, ReadOnce strengthOf none values found ∧ strength = found.getD .bits128) ↔
      GivesStrength values strength := by
  constructor
  · rintro ⟨_, ⟨⟩ | accepted, rfl⟩
    · exact .absent
    · rw [strengthOf_eq_ok_iff.mp accepted]
      exact .bits _
  · rintro (_ | strength)
    · exact ⟨none, .nothing, rfl⟩
    · exact ⟨some strength, .value (strengthOf_eq_ok_iff.mpr rfl), rfl⟩

theorem exists_readOnce_source_iff {values : List Json} {source : WordListSource}
    (objects : ∀ value ∈ values, ∃ inner, value = .object inner none)
    (whole : ∀ value ∈ values, value.fault? = none) :
    (∃ found, ReadOnce sourceOf none values found ∧ source = found.getD .embedded) ↔
      GivesSource values source := by
  have described : ∀ {inner source}, Json.object inner none ∈ values →
      (sourceOf (.object inner none) = .ok source ↔ DescribesSource inner source) := by
    intro inner source member
    refine sourceOf_object_eq_ok_iff ?_
    exact (Option.or_eq_none_iff.mp (whole _ member)).1
  constructor
  · rintro ⟨_, ⟨⟩ | accepted, rfl⟩
    · exact .absent
    · obtain ⟨inner, rfl⟩ := objects _ List.mem_cons_self
      exact .object ((described List.mem_cons_self).mp accepted)
  · intro given
    cases given with
    | absent => exact ⟨none, .nothing, rfl⟩
    | object given =>
      exact ⟨some source, .value ((described List.mem_cons_self).mpr given), rfl⟩

/-- The values of sound members are sound. -/
theorem fault?_of_mem_valuesOf {name : String} {value : Json}
    (whole : Json.membersFault? members = none) (member : value ∈ valuesOf name members) :
    value.fault? = none := by
  induction members with
  | nil => cases member
  | cons first rest ih =>
    obtain ⟨other, found⟩ := first
    obtain ⟨foundWhole, restWhole⟩ := Option.or_eq_none_iff.mp whole
    by_cases same : other = name
    · subst same
      rw [valuesOf_cons_same] at member
      rcases List.mem_cons.mp member with rfl | later
      · exact foundWhole
      · exact ih restWhole later
    · rw [valuesOf_cons_other same] at member
      exact ih restWhole member

/-- Settings are read from an object exactly when the members describe them. -/
theorem ofJson_object_eq_ok_iff (whole : Json.membersFault? members = none)
    (objects : ∀ value ∈ valuesOf "wordlist" members, ∃ inner, value = .object inner none) :
    ofJson (.object members none) = .ok settings ↔ Describes members settings := by
  have source := @exists_readOnce_source_iff (valuesOf "wordlist" members) settings.source objects
    fun value member => fault?_of_mem_valuesOf whole member
  rw [ofJson, settingsMembers_eq_ok_iff]
  constructor
  · rintro ⟨foundStrength, onceStrength, foundSource, onceSource, known, rfl⟩
    exact ⟨known, exists_readOnce_strength_iff.mp ⟨_, onceStrength, rfl⟩,
      source.mp ⟨_, onceSource, rfl⟩⟩
  · rintro ⟨known, givenStrength, givenSource⟩
    obtain ⟨foundStrength, onceStrength, sameStrength⟩ :=
      exists_readOnce_strength_iff.mpr givenStrength
    obtain ⟨foundSource, onceSource, sameSource⟩ := source.mpr givenSource
    refine ⟨foundStrength, onceStrength, foundSource, onceSource, known, ?_⟩
    rw [← sameStrength, ← sameSource]

end Objects

/-- **A text whose value is an object is read as settings exactly when its members
describe them.** This is for texts within the limit of nesting whose values under
`wordlist` are objects. -/
theorem ofText_eq_ok_iff_describes {text : String} {members : List (String × Json)}
    (spelled : SpellsDocument text (.object members none))
    (shallow : (Json.object members none).depth ≤ Json.nestingLimit)
    (objects : ∀ value ∈ valuesOf "wordlist" members, ∃ inner, value = .object inner none)
    (settings : Settings) : ofText text = .ok settings ↔ Describes members settings := by
  have whole : Json.membersFault? members = none := by
    obtain ⟨before, core, after, -, -, spelled, -⟩ := spelled
    exact (Option.or_eq_none_iff.mp (Json.fault?_of_spells spelled)).1
  rw [ofText_of_spells spelled shallow]
  exact ofJson_object_eq_ok_iff whole objects

/-- Members with the source before the strength, the kind of the source at its end, a pin
that is null and a path with characters that are escaped. -/
def looseMembers : List (String × Json) :=
  [("wordlist", .object [("sha256", .null), ("path", .string "the \"list\"\n.txt"),
      ("source", .string "file")] none),
    ("entropy_bits", .number (.natural 256))]

theorem ofText_looseMembers :
    SpellsDocument (Json.object looseMembers none).pretty (.object looseMembers none) ∧
      (Json.object looseMembers none).depth ≤ Json.nestingLimit ∧
      (∀ value ∈ valuesOf "wordlist" looseMembers, ∃ inner, value = .object inner none) ∧
      ofText (Json.object looseMembers none).pretty =
        .ok ⟨.bits256, .file "the \"list\"\n.txt" none⟩ := by
  have writable : Json.Writable (.object looseMembers none) :=
    ⟨rfl, ⟨rfl, trivial, trivial, trivial, trivial⟩, .natural (by decide), trivial⟩
  have spelled := Json.spellsDocument_pretty writable
  have shallow : (Json.object looseMembers none).depth ≤ Json.nestingLimit := by decide
  have objects : ∀ value ∈ valuesOf "wordlist" looseMembers,
      ∃ inner, value = .object inner none := by
    intro value member
    cases List.mem_singleton.mp member
    exact ⟨_, rfl⟩
  have described : Describes looseMembers ⟨.bits256, .file "the \"list\"\n.txt" none⟩ := by
    refine ⟨?_, .bits .bits256, .object (.file rfl rfl .null)⟩
    simp [KnownNames, looseMembers]
  exact ⟨spelled, shallow, objects,
    (ofText_eq_ok_iff_describes spelled shallow objects _).mpr described⟩

end MnemonicCode.Settings
