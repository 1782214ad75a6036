import MnemonicCode.Proofs.CommandLine.Readings
import Mathlib

/-!
# Options in any place

Options and words may be mixed in any order. What the arguments ask for depends on the words
in their order and on the last value of each option (`ofArguments_of_spells`). So items can
be moved past each other as long as the items of each role keep their order (`SameOrders`):
arguments that spell the reordered items ask for the same (`ofArguments_of_sameOrders`).

A help option that is read as an option ends the scan, and so does an argument that is
refused; whatever is appended then changes nothing (`Reads.append`). Only two readings go on
with what is appended: one that has come to the end of the arguments, and one that has come
to an option whose value is missing. In the latter case the next argument is the value, also
when it looks like a help option.
-/

set_option autoImplicit false

namespace MnemonicCode.CommandLine

variable {arguments others before rest : List String} {items reordered : List Item}
  {stop : Stop}

/-! ## Words and last values -/

/-- What words ask for, with the last values of the options. -/
def requestOf (words : List String) (path : Option String) (bits : Option Nat)
    (passphrase : Option String) : Except UsageFault Request :=
  (Findings.command ⟨path, bits, passphrase.getD "", words.toArray⟩).map (Request.mk path)

/-- The findings after items hold the last values and the words, and nothing else. -/
theorem after_none_eq (items : List Item) :
    Findings.none.after items =
      ⟨lastPath items, lastBits items, (lastPassphrase items).getD "",
        (wordsIn items).toArray⟩ := by
  have path : (Findings.none.after items).settingsPath = lastPath items :=
    (Findings.none.settingsPath_after items).trans Option.or_none
  have bits : (Findings.none.after items).bits = lastBits items :=
    (Findings.none.bits_after items).trans Option.or_none
  have passphrase : (Findings.none.after items).passphrase = (lastPassphrase items).getD "" :=
    Findings.none.passphrase_after items
  have words : (Findings.none.after items).words = (wordsIn items).toArray := by
    rw [← words_after_none]
  rw [← path, ← bits, ← passphrase, ← words]

/-- **What items ask for is told by their words and by the last value of each option.** -/
theorem ofArguments_of_spells (spelled : SpellsItems arguments items) :
    Request.ofArguments arguments =
      requestOf (wordsIn items) (lastPath items) (lastBits items) (lastPassphrase items) := by
  rw [ofArguments_of_reads (reads_complete_iff.mpr spelled), Stop.request, after_none_eq]
  rfl

/-- The request has the last values of the options, and its phrase is made of all words but
the first. -/
structure TakesLast (items : List Item) (request : Request) : Prop where
  settingsPath_eq : request.settingsPath = lastPath items
  bits_eq : ∀ bits, request.command = .generate bits → bits = lastBits items
  phrase_eq : ∀ phrase, request.command = .validate phrase →
    phrase = " ".intercalate (wordsIn items).tail
  seed_eq : ∀ phrase passphrase, request.command = .seed phrase passphrase →
    phrase = " ".intercalate (wordsIn items).tail ∧
      passphrase = (lastPassphrase items).getD ""

/-- A command takes the number of bits and the passphrase as they were found, and all words
but the first as its phrase. -/
inductive Findings.Gives (findings : Findings) : Command → Prop where
  | generate : Gives findings (.generate findings.bits)
  | validate : Gives findings (.validate (" ".intercalate findings.words.toList.tail))
  | seed : Gives findings
      (.seed (" ".intercalate findings.words.toList.tail) findings.passphrase)
  | digest : Gives findings .digest
  | help : Gives findings .help

theorem Findings.gives_of_command {findings : Findings} {command : Command}
    (commanded : findings.command = .ok command) : findings.Gives command := by
  rw [Findings.command] at commanded
  cases words : findings.words.toList with
  | nil =>
    simp only [words] at commanded
    cases commanded
    exact .help
  | cons name rest =>
    have phrase : Phrase.ofWords rest = " ".intercalate findings.words.toList.tail := by
      rw [words]
      rfl
    simp only [words] at commanded
    rw [phrase] at commanded
    split_ifs at commanded
    · cases commanded
      exact .generate
    · cases commanded
      exact .validate
    · cases commanded
      exact .seed
    · cases commanded
      exact .digest
    · cases commanded
      exact .help

theorem takesLast_of_spells (spelled : SpellsItems arguments items) {request : Request}
    (asks : Request.ofArguments arguments = .ok request) : TakesLast items request := by
  rw [ofArguments_of_spells spelled, requestOf] at asks
  cases commanded : Findings.command ⟨lastPath items, lastBits items,
      (lastPassphrase items).getD "", (wordsIn items).toArray⟩ with
  | error fault =>
    rw [commanded] at asks
    cases asks
  | ok command =>
    rw [commanded] at asks
    cases asks
    cases Findings.gives_of_command commanded with
    | generate => exact ⟨rfl, fun bits same => (Command.generate.inj same).symm, nofun, nofun⟩
    | validate => exact ⟨rfl, nofun, fun phrase same => (Command.validate.inj same).symm, nofun⟩
    | seed =>
      refine ⟨rfl, nofun, nofun, fun phrase passphrase same => ?_⟩
      obtain ⟨first, second⟩ := Command.seed.inj same
      exact ⟨first.symm, second.symm⟩
    | digest | help => exact ⟨rfl, nofun, nofun, nofun⟩

/-! ## Moving items past each other -/

/-- What the first argument of an item is. -/
def Item.role : Item → Role
  | settings _ => .settings
  | bits _ => .bits
  | passphrase _ => .passphrase
  | word _ => .word

/-- The items of each role are the same and stand in the same order. -/
def SameOrders (items reordered : List Item) : Prop :=
  ∀ role, items.filter (fun item => item.role = role) =
    reordered.filter fun item => item.role = role

/-- What is taken from the items of one role does not depend on the others. -/
theorem SameOrders.filterMap_eq {α : Type} (same : SameOrders items reordered) (role : Role)
    (value? : Item → Option α) (only : ∀ item, item.role ≠ role → value? item = none) :
    items.filterMap value? = reordered.filterMap value? := by
  have kept (list : List Item) :
      (list.filter fun item => item.role = role).filterMap value? = list.filterMap value? := by
    rw [List.filterMap_filter]
    refine List.filterMap_congr fun item _ => ?_
    by_cases here : item.role = role
    · rw [decide_eq_true here, if_pos rfl]
    · rw [decide_eq_false here, only item here, if_neg Bool.false_ne_true]
  rw [← kept items, same role, kept reordered]

section Moved

variable (same : SameOrders items reordered)

include same

theorem SameOrders.wordsIn_eq : wordsIn items = wordsIn reordered := by
  refine same.filterMap_eq .word Item.word? fun item differs => ?_
  cases item with
  | word => exact absurd rfl differs
  | _ => rfl

theorem SameOrders.lastPath_eq : lastPath items = lastPath reordered := by
  refine congrArg List.getLast? (same.filterMap_eq .settings Item.path? fun item differs => ?_)
  cases item with
  | settings => exact absurd rfl differs
  | _ => rfl

theorem SameOrders.lastBits_eq : lastBits items = lastBits reordered := by
  refine congrArg List.getLast? (same.filterMap_eq .bits Item.bits? fun item differs => ?_)
  cases item with
  | bits => exact absurd rfl differs
  | _ => rfl

theorem SameOrders.lastPassphrase_eq : lastPassphrase items = lastPassphrase reordered := by
  refine congrArg List.getLast?
    (same.filterMap_eq .passphrase Item.passphrase? fun item differs => ?_)
  cases item with
  | passphrase => exact absurd rfl differs
  | _ => rfl

/-- **Reordered items ask for the same.** -/
theorem ofArguments_of_sameOrders (spelled : SpellsItems arguments items)
    (spelledOther : SpellsItems others reordered) :
    Request.ofArguments others = Request.ofArguments arguments := by
  rw [ofArguments_of_spells spelled, ofArguments_of_spells spelledOther, same.wordsIn_eq,
    same.lastPath_eq, same.lastBits_eq, same.lastPassphrase_eq]

end Moved

/-! ## Appended arguments -/

/-- What no appended argument changes: a help option, or an argument that is refused although
nothing is missing. -/
inductive Stop.IsFinal : Stop → Prop where
  | help : IsFinal .help
  | refused {fault : UsageFault}
      (there : fault ∉ [.missingPath, .missingBits, .missingPassphrase]) :
      IsFinal (.refused fault)

theorem Stops.append (stops : Stops arguments stop) (final : stop.IsFinal)
    (more : List String) : Stops (arguments ++ more) stop := by
  cases stops with
  | complete => cases final
  | help named rest => exact .help named (rest ++ more)
  | missingPath | missingBits | missingPassphrase =>
    cases final with
    | refused there => exact absurd (by decide) there
  | invalidBits named unread rest => exact .invalidBits named unread (rest ++ more)
  | unknownOption hyphen other rest => exact .unknownOption hyphen other (rest ++ more)

/-- **A reading that is final is kept** when arguments are appended. -/
theorem Reads.append (reads : Reads arguments items stop) (final : stop.IsFinal)
    (more : List String) : Reads (arguments ++ more) items stop := by
  induction reads with
  | stop stops => exact .stop (stops.append final more)
  | item spelled _ ih =>
    rw [List.append_assoc]
    exact .item spelled (ih final)

/-- The scan goes on after items that are spelled in full. -/
theorem SpellsItems.reads_append {otherItems : List Item} (spelled : SpellsItems before items)
    (reads : Reads rest otherItems stop) : Reads (before ++ rest) (items ++ otherItems) stop := by
  induction spelled with
  | nil => exact reads
  | cons first _ ih =>
    rw [List.append_assoc]
    exact .item first ih

/-- Readings that end with a help option: the items before it are spelled in full. -/
theorem reads_help_iff : Reads arguments items .help ↔
    ∃ before flag rest, arguments = before ++ flag :: rest ∧ SpellsItems before items ∧
      (flag = "--help" ∨ flag = "-h") := by
  constructor
  · intro reads
    generalize ended : Stop.help = stop at reads
    induction reads with
    | stop stops =>
      subst ended
      cases stops with
      | help named rest => exact ⟨[], _, rest, rfl, .nil, named⟩
    | item spelled _ ih =>
      obtain ⟨before, flag, rest, rfl, others, named⟩ := ih ended
      exact ⟨_, flag, rest, (List.append_assoc _ _ _).symm, .cons spelled others, named⟩
  · rintro ⟨before, flag, rest, rfl, spelled, named⟩
    have reads := spelled.reads_append (.stop (.help named rest))
    rwa [List.append_nil] at reads

/-- Arguments with a fault are not spelled in full, so nothing after them is read as an
option. -/
theorem not_spellsItems_of_refused {fault : UsageFault}
    (reads : Reads arguments items (.refused fault)) : ¬ SpellsItems arguments reordered := by
  intro spelled
  have failed := scan_of_reads reads .none
  rw [scan_of_reads (reads_complete_iff.mpr spelled)] at failed
  cases failed

/-! ## Any order -/

end MnemonicCode.CommandLine
