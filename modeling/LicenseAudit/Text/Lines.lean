/-!
# Lines of a text

Two ways to cut a text at line feeds:

* `pieces` cuts at every separator and loses nothing: joining the pieces again gives the
  text back (`intercalate_pieces`);
* `lines` reads the text as a sequence of lines. A line ends at a line feed or at the end of
  the text, a carriage return just before the line feed belongs to the line break, and a text
  that ends with a line break has no further, empty line after it.
-/

namespace LicenseAudit.Text

/-- The pieces of a text between the separators. There is always at least one. -/
def pieces (sep : Char) : List Char → List (List Char)
  | [] => [[]]
  | c :: rest =>
    if c = sep then [] :: pieces sep rest
    else match pieces sep rest with
      | [] => [[c]]
      | piece :: more => (c :: piece) :: more

theorem pieces_ne_nil (sep : Char) (cs : List Char) : pieces sep cs ≠ [] := by
  cases cs with
  | nil => simp [pieces]
  | cons c rest =>
    simp only [pieces]
    split
    · simp
    · split <;> simp

/-- Cutting loses nothing. -/
theorem intercalate_pieces (sep : Char) (cs : List Char) :
    List.intercalate [sep] (pieces sep cs) = cs := by
  induction cs with
  | nil => rfl
  | cons c rest ih =>
    obtain ⟨piece, more, h⟩ := List.exists_cons_of_ne_nil (pieces_ne_nil sep rest)
    simp only [pieces]
    split
    case isTrue hc =>
      rw [h, List.intercalate_cons_cons, ← h, ih, hc]
      rfl
    case isFalse =>
      rw [h] at ih ⊢
      cases more with
      | nil =>
        simp only [List.intercalate_singleton] at ih ⊢
        rw [ih]
      | cons next others =>
        simp only [List.intercalate_cons_cons, List.cons_append] at ih ⊢
        rw [ih]

/-- A line without the carriage return that ends it, if one does. -/
def dropReturn : List Char → List Char
  | [] => []
  | ['\r'] => []
  | c :: rest => c :: dropReturn rest

/-- Reads pieces between line feeds as lines: all but the last were ended by a line feed, and
an empty last piece is no line. -/
def linesOfPieces : List (List Char) → List (List Char)
  | [] => []
  | [last] => if last.isEmpty then [] else [last]
  | piece :: more => dropReturn piece :: linesOfPieces more

/-- The lines of a text. -/
def lines (cs : List Char) : List (List Char) :=
  linesOfPieces (pieces '\n' cs)

/-- Lines joined by single line feeds, with none at the end. -/
def joinLines (ls : List (List Char)) : List Char :=
  List.intercalate ['\n'] ls

end LicenseAudit.Text
