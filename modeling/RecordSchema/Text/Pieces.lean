/-
Texts cut at a separator.

A separator ends one piece and begins the next, so a text with `n` separators has `n + 1` pieces and
an empty text is one empty piece. Nothing is lost: putting the separators back gives the text.
-/

set_option autoImplicit false

namespace RecordSchema.Text

/-- The pieces of a text between separators. -/
def pieces (separator : Char) : List Char → List (List Char)
  | [] => [[]]
  | c :: cs =>
    if c = separator then
      [] :: pieces separator cs
    else
      match pieces separator cs with
      | [] => [[c]]
      | piece :: rest => (c :: piece) :: rest

/-- The text that pieces make with a separator between each two. -/
def joinPieces (separator : Char) : List (List Char) → List Char
  | [] => []
  | [piece] => piece
  | piece :: rest => piece ++ separator :: joinPieces separator rest

/-- There is always a first piece. -/
theorem pieces_ne_nil (separator : Char) (cs : List Char) : pieces separator cs ≠ [] := by
  cases cs with
  | nil => simp [pieces]
  | cons c cs =>
    simp only [pieces]
    split
    · simp
    · split <;> simp

/-- Cutting loses nothing. -/
theorem joinPieces_pieces (separator : Char) (cs : List Char) :
    joinPieces separator (pieces separator cs) = cs := by
  induction cs with
  | nil => rfl
  | cons c cs ih =>
    have more := pieces_ne_nil separator cs
    simp only [pieces]
    split
    · next eq =>
      cases found : pieces separator cs with
      | nil => exact absurd found more
      | cons piece rest => rw [found] at ih; simp [joinPieces, ih, eq]
    · cases found : pieces separator cs with
      | nil => exact absurd found more
      | cons piece rest =>
        rw [found] at ih
        cases rest with
        | nil => simpa [joinPieces] using ih
        | cons next rest => simpa [joinPieces] using ih

end RecordSchema.Text
