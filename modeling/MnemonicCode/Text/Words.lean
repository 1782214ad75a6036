import MnemonicCode.Text.Blank

/-!
# Words and lines

A text is cut at separator characters into the pieces between them. Lines are
the pieces between line feeds. Words are the pieces between blank characters
that are not empty, so any amount of blank around and between words is ignored.

Pieces hold no separator (`not_separates_of_mem_pieces`), and nothing but
separators is lost (`intercalate_pieces`).
-/

set_option autoImplicit false

namespace MnemonicCode.Text

/-- The pieces between the separators, of which there is one more than there are
separators. -/
def pieces (separates : Char → Bool) (characters : List Char) : List (List Char) :=
  characters.foldr
    (fun c parts =>
      if separates c then [] :: parts
      else match parts with
        | [] => [[c]]
        | part :: others => (c :: part) :: others)
    [[]]

theorem pieces_ne_nil (separates : Char → Bool) (characters : List Char) :
    pieces separates characters ≠ [] := by
  cases characters with
  | nil => simp [pieces]
  | cons c rest =>
    simp only [pieces, List.foldr_cons]
    split
    · simp
    · split <;> simp

/-- A separator ends the first piece. -/
theorem pieces_cons_of_separates (separates : Char → Bool) {c : Char} (rest : List Char)
    (ends : separates c = true) : pieces separates (c :: rest) = [] :: pieces separates rest := by
  simp [pieces, ends]

/-- Another character goes to the first piece. -/
theorem pieces_cons_of_not_separates (separates : Char → Bool) {c : Char} (rest : List Char)
    (stays : separates c = false) :
    ∃ part others, pieces separates rest = part :: others ∧
      pieces separates (c :: rest) = (c :: part) :: others := by
  obtain ⟨part, others, same⟩ := List.exists_cons_of_ne_nil (pieces_ne_nil separates rest)
  refine ⟨part, others, same, ?_⟩
  unfold pieces at same ⊢
  simp [stays, same]

theorem not_separates_of_mem_pieces {separates : Char → Bool} {characters piece : List Char}
    (member : piece ∈ pieces separates characters) {c : Char} (inside : c ∈ piece) :
    separates c = false := by
  induction characters generalizing piece with
  | nil =>
    simp only [pieces, List.foldr_nil, List.mem_singleton] at member
    subst member
    cases inside
  | cons first rest ih =>
    cases kind : separates first with
    | true =>
      rw [pieces_cons_of_separates separates rest kind] at member
      rcases List.mem_cons.mp member with here | later
      · subst here
        cases inside
      · exact ih later inside
    | false =>
      obtain ⟨part, others, same, extended⟩ := pieces_cons_of_not_separates separates rest kind
      rw [extended] at member
      rcases List.mem_cons.mp member with here | later
      · subst here
        rcases List.mem_cons.mp inside with first | other
        · subst first
          exact kind
        · exact ih (by rw [same]; exact List.mem_cons_self) other
      · exact ih (by rw [same]; exact List.mem_cons_of_mem _ later) inside

/-- Where one character separates, the pieces with this character between them
are the whole. -/
theorem intercalate_pieces (separator : Char) (characters : List Char) :
    [separator].intercalate (pieces (· == separator) characters) = characters := by
  induction characters with
  | nil => rfl
  | cons c rest ih =>
    cases kind : c == separator with
    | true =>
      rw [pieces_cons_of_separates (· == separator) rest kind]
      obtain ⟨part, others, same⟩ :=
        List.exists_cons_of_ne_nil (pieces_ne_nil (· == separator) rest)
      rw [same] at ih ⊢
      rw [List.intercalate_cons_cons, ih, beq_iff_eq.mp kind]
      rfl
    | false =>
      obtain ⟨part, others, same, extended⟩ :=
        pieces_cons_of_not_separates (· == separator) rest kind
      rw [same] at ih
      rw [extended]
      cases others with
      | nil => simpa using ih
      | cons next others =>
        rw [List.intercalate_cons_cons] at ih ⊢
        rw [List.cons_append, List.cons_append, ih]

/-- The words of a text. -/
def words (text : String) : List String :=
  ((pieces isBlank text.toList).filter fun piece => !piece.isEmpty).map String.ofList

/-- The parts of a text between line feeds. -/
def lines (text : String) : List String :=
  (pieces (· == '\n') text.toList).map String.ofList

/-- The text without its last character, if that is a line feed. -/
def withoutFinalLineFeed (text : String) : String :=
  match text.toList.reverse with
  | '\n' :: reversed => String.ofList reversed.reverse
  | _ => text

/-- The text without the blank characters at its two ends. -/
def trimmed (text : String) : String :=
  String.ofList
    ((text.toList.dropWhile isBlank).reverse.dropWhile isBlank).reverse

/-- Whether the text begins or ends with a blank character. -/
def isPadded (text : String) : Bool :=
  text.toList.head?.any isBlank || text.toList.getLast?.any isBlank

end MnemonicCode.Text
