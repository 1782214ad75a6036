import MnemonicCode.Proofs.CommandLine.Items
import Mathlib

/-!
# Readings of the arguments

A scan reads items until something stops it: the end of the arguments, a help option, or an
argument that is refused (`Stops`). All arguments have a reading of this kind, whether they
ask for something or not (`exists_reads`). The items that are read and what stops the scan
determine its result (`scan_of_reads`), and so what the arguments ask for
(`ofArguments_of_reads`).

The last path among the items is the path of the settings, whatever the command is
(`settingsPath_of_reads`). The command is read off the words when nothing stops the scan
early. So arguments ask for a new phrase when they spell items of which the first word is
`generate` (`ofArguments_eq_generate_iff`).
-/

set_option autoImplicit false

namespace MnemonicCode.CommandLine

/-! ## What stops a scan -/

/-- What stops a scan. -/
inductive Stop where
  | complete
  | help
  | refused (fault : UsageFault)
  deriving DecidableEq, Repr

/-- The arguments of which a scan reads no item, with what stops it there. -/
inductive Stops : List String → Stop → Prop where
  | complete : Stops [] .complete
  | help {option : String} (named : option = "--help" ∨ option = "-h") (rest : List String) :
      Stops (option :: rest) .help
  | missingPath {option : String} (named : option = "--config" ∨ option = "-c") :
      Stops [option] (.refused .missingPath)
  | missingBits {option : String} (named : option = "--bits" ∨ option = "-b") :
      Stops [option] (.refused .missingBits)
  | missingPassphrase {option : String} (named : option = "--passphrase" ∨ option = "-p") :
      Stops [option] (.refused .missingPassphrase)
  | invalidBits {option value : String} {fault : NumeralFault}
      (named : option = "--bits" ∨ option = "-b") (unread : readNumeral value = .error fault)
      (rest : List String) : Stops (option :: value :: rest) (.refused (.invalidBits value fault))
  | unknownOption {argument : String} (hyphen : ¬ IsPlain argument) (other : argument ∉ options)
      (rest : List String) : Stops (argument :: rest) (.refused (.unknownOption argument))

/-- The items that a scan reads one after the other, and what stops it after them. -/
inductive Reads : List String → List Item → Stop → Prop where
  | stop {arguments : List String} {stop : Stop} (stops : Stops arguments stop) :
      Reads arguments [] stop
  | item {first rest : List String} {item : Item} {items : List Item} {stop : Stop}
      (spelled : SpellsItem first item) (others : Reads rest items stop) :
      Reads (first ++ rest) (item :: items) stop

/-- The result of a scan that stops with these findings. -/
def Stop.result (stop : Stop) (findings : Findings) : Except UsageFault Scan :=
  match stop with
  | .complete => .ok (.complete findings)
  | .help => .ok (.help findings)
  | .refused fault => .error fault

variable {arguments : List String} {items : List Item} {stop : Stop}

/-! ## Scans -/

theorem scan_of_stops (stops : Stops arguments stop) (findings : Findings) :
    scan findings arguments = stop.result findings := by
  cases stops with
  | complete => rfl
  | help named rest =>
    have role := (Role.Fits.help named).of_eq Role.noConfusion
    rw [scan.eq_def]
    simp only [role]
    rfl
  | missingPath named =>
    have role := (Role.Fits.settings named).of_eq Role.noConfusion
    rw [scan.eq_def]
    simp only [role]
    rfl
  | missingBits named =>
    have role := (Role.Fits.bits named).of_eq Role.noConfusion
    rw [scan.eq_def]
    simp only [role]
    rfl
  | missingPassphrase named =>
    have role := (Role.Fits.passphrase named).of_eq Role.noConfusion
    rw [scan.eq_def]
    simp only [role]
    rfl
  | invalidBits named unread rest =>
    have role := (Role.Fits.bits named).of_eq Role.noConfusion
    rw [scan.eq_def]
    simp only [role, unread]
    rfl
  | unknownOption hyphen other rest => exact scan_unknown hyphen other findings rest

/-- **The result of a scan is told by the items that it reads and by what stops it.** -/
theorem scan_of_reads (reads : Reads arguments items stop) (findings : Findings) :
    scan findings arguments = stop.result (findings.after items) := by
  induction reads generalizing findings with
  | stop stops => exact scan_of_stops stops findings
  | item spelled _ ih =>
    rw [scan_item spelled, ih]
    rfl

theorem not_mem_options_of_unknown {argument : String} (role : Role.of argument = .unknown) :
    argument ∉ options := by
  have known : ∀ option ∈ options, Role.of option ≠ .unknown := by decide
  intro listed
  exact known argument listed role

/-- **All arguments have a reading.** -/
theorem exists_reads (arguments : List String) : ∃ items stop, Reads arguments items stop := by
  have scanned : ∀ _ : Findings, ∃ items stop, Reads arguments items stop := by
    intro findings
    -- the cases are those of the scan: one for each way to stop and one for each item
    fun_induction scan findings arguments with
    | case1 => exact ⟨[], .complete, .stop .complete⟩
    | case2 findings option role =>
      cases Role.fits role with
      | settings named => exact ⟨[], _, .stop (.missingPath named)⟩
    | case3 findings option role path rest ih =>
      obtain ⟨items, stop, others⟩ := ih
      cases Role.fits role with
      | settings named => exact ⟨.settings path :: items, stop, .item (.settings named path) others⟩
    | case4 findings option role =>
      cases Role.fits role with
      | bits named => exact ⟨[], _, .stop (.missingBits named)⟩
    | case5 findings option role value rest fault unread =>
      cases Role.fits role with
      | bits named => exact ⟨[], _, .stop (.invalidBits named unread rest)⟩
    | case6 findings option role value rest number read ih =>
      obtain ⟨items, stop, others⟩ := ih
      cases Role.fits role with
      | bits named => exact ⟨.bits number :: items, stop, .item (.bits named read) others⟩
    | case7 findings option role =>
      cases Role.fits role with
      | passphrase named => exact ⟨[], _, .stop (.missingPassphrase named)⟩
    | case8 findings option role text rest ih =>
      obtain ⟨items, stop, others⟩ := ih
      cases Role.fits role with
      | passphrase named =>
        exact ⟨.passphrase text :: items, stop, .item (.passphrase named text) others⟩
    | case9 findings option rest role =>
      cases Role.fits role with
      | help named => exact ⟨[], .help, .stop (.help named rest)⟩
    | case10 findings option rest role =>
      cases Role.fits role with
      | unknown hyphen =>
        exact ⟨[], _, .stop (.unknownOption hyphen (not_mem_options_of_unknown role) rest)⟩
    | case11 findings word rest role ih =>
      obtain ⟨items, stop, others⟩ := ih
      cases Role.fits role with
      | word plain => exact ⟨.word word :: items, stop, .item (.word plain) others⟩
  exact scanned .none

/-- A word in front is read first. -/
theorem Reads.word {word : String} (plain : IsPlain word) (reads : Reads arguments items stop) :
    Reads (word :: arguments) (.word word :: items) stop :=
  .item (.word plain) reads

/-- Arguments that are read to their end are those that spell the items. -/
theorem reads_complete_iff : Reads arguments items .complete ↔ SpellsItems arguments items := by
  constructor
  · intro reads
    generalize ended : Stop.complete = stop at reads
    induction reads with
    | stop stops =>
      subst ended
      cases stops
      exact .nil
    | item spelled _ ih => exact .cons spelled (ih ended)
  · intro spelled
    induction spelled with
    | nil => exact .stop .complete
    | cons spelled _ ih => exact .item spelled ih

/-! ## Requests -/

/-- What arguments with this reading ask for. -/
def Stop.request (stop : Stop) (items : List Item) : Except UsageFault Request :=
  match stop with
  | .complete =>
    (Findings.none.after items).command.map fun command => ⟨lastPath items, command⟩
  | .help => .ok ⟨lastPath items, .help⟩
  | .refused fault => .error fault

/-- **What arguments ask for is told by their reading.** -/
theorem ofArguments_of_reads (reads : Reads arguments items stop) :
    Request.ofArguments arguments = stop.request items := by
  have path : (Findings.none.after items).settingsPath = lastPath items :=
    (Findings.none.settingsPath_after items).trans Option.or_none
  rw [Request.ofArguments, scan_of_reads reads]
  cases stop with
  | complete | help =>
    rw [Stop.request, ← path]
    rfl
  | refused fault => rfl

/-- The path of the settings is the last one among the items. -/
theorem settingsPath_of_reads (reads : Reads arguments items stop) {request : Request}
    (asks : Request.ofArguments arguments = .ok request) :
    request.settingsPath = lastPath items := by
  rw [ofArguments_of_reads reads] at asks
  cases stop with
  | complete =>
    rw [Stop.request] at asks
    cases command : (Findings.none.after items).command with
    | error fault =>
      rw [command] at asks
      cases asks
    | ok command' =>
      rw [command] at asks
      cases asks
      rfl
  | help =>
    cases asks
    rfl
  | refused fault => cases asks

/-- Arguments that ask for something else than help spell items. -/
theorem exists_items_of_request {request : Request}
    (asks : Request.ofArguments arguments = .ok request) (other : request.command ≠ .help) :
    ∃ items, SpellsItems arguments items := by
  obtain ⟨items, stop, reads⟩ := exists_reads arguments
  rw [ofArguments_of_reads reads] at asks
  cases stop with
  | complete => exact ⟨items, reads_complete_iff.mp reads⟩
  | help =>
    cases asks
    exact absurd rfl other
  | refused fault => cases asks

/-! ## Commands -/

theorem words_after_none (items : List Item) :
    (Findings.none.after items).words.toList = wordsIn items :=
  Findings.none.words_after items

theorem Findings.command_eq_generate_iff {findings : Findings} {bits : Option Nat} :
    findings.command = .ok (.generate bits) ↔
      findings.words.toList.head? = some "generate" ∧ bits = findings.bits := by
  rw [command]
  cases findings.words.toList with
  | nil => simp
  | cons name rest =>
    rw [List.head?_cons, Option.some.injEq]
    by_cases named : name = "generate"
    · simp [named, eq_comm]
    · simp only [named, if_false, false_and, iff_false]
      intro same
      split_ifs at same <;> cases same

/-- **Arguments ask for a new phrase exactly when they spell items whose first word is
`generate`**; the path and the number of bits are the last ones among the items. -/
theorem ofArguments_eq_generate_iff {path : Option String} {bits : Option Nat} :
    Request.ofArguments arguments = .ok ⟨path, .generate bits⟩ ↔
      ∃ items, SpellsItems arguments items ∧ (wordsIn items).head? = some "generate" ∧
        path = lastPath items ∧ bits = lastBits items := by
  have asked : ∀ {items}, SpellsItems arguments items →
      (Request.ofArguments arguments = .ok ⟨path, .generate bits⟩ ↔
        (wordsIn items).head? = some "generate" ∧ path = lastPath items ∧
          bits = lastBits items) := by
    intro items spelled
    have last : (Findings.none.after items).bits = lastBits items :=
      (Findings.none.bits_after items).trans Option.or_none
    rw [ofArguments_of_reads (reads_complete_iff.mpr spelled), Stop.request,
      ← words_after_none, ← last, and_left_comm, ← Findings.command_eq_generate_iff]
    cases (Findings.none.after items).command <;> simp [Except.map, eq_comm]
  constructor
  · intro asks
    obtain ⟨items, spelled⟩ := exists_items_of_request asks nofun
    exact ⟨items, spelled, (asked spelled).mp asks⟩
  · rintro ⟨items, spelled, found⟩
    exact (asked spelled).mpr found

end MnemonicCode.CommandLine
