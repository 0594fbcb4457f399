/-
  RoutingSessions.Text.Lines — text cut at a separator, and bytes cut into lines.

  A line of bytes ends at a line feed, with one carriage return before it taken
  off; a last line needs no line feed, and nothing follows a final one.

  Main statement:
    * `pieces_ne_nil` — there is always at least one piece.
    * `joinWith_pieces` — the pieces joined again are the text.
-/

namespace RoutingSessions

/-! ## Pieces between separators -/

/-- The pieces between the separators: one more than there are separators. -/
def pieces (sep : Char) : List Char → List (List Char)
  | [] => [[]]
  | c :: cs =>
    if c = sep then [] :: pieces sep cs
    else match pieces sep cs with
      | [] => [[c]]
      | p :: ps => (c :: p) :: ps

/-- The pieces with the separator between neighbours. -/
def joinWith (sep : Char) : List (List Char) → List Char
  | [] => []
  | [p] => p
  | p :: q :: ps => p ++ sep :: joinWith sep (q :: ps)

theorem pieces_ne_nil (sep : Char) (s : List Char) : pieces sep s ≠ [] := by
  cases s with
  | nil => simp [pieces]
  | cons c cs =>
    unfold pieces
    split
    · simp
    · split <;> simp

theorem joinWith_pieces (sep : Char) (s : List Char) : joinWith sep (pieces sep s) = s := by
  induction s with
  | nil => rfl
  | cons c cs ih =>
    unfold pieces
    cases hp : pieces sep cs with
    | nil => exact absurd hp (pieces_ne_nil sep cs)
    | cons p ps =>
      rw [hp] at ih
      split
      · rename_i h
        simp [joinWith, ih, h]
      · cases ps with
        | nil => simpa [joinWith] using ih
        | cons q qs => simpa [joinWith] using ih

/-! ## Lines of bytes -/

/-- A line without the carriage return that may end it. -/
def chompReturn (line : List UInt8) : List UInt8 :=
  if line.getLast? = some 13 then line.dropLast else line

/-- The lines of a byte text; `line` holds what was read of the current one, reversed. -/
def byteLinesFrom (line : List UInt8) : List UInt8 → List (List UInt8)
  | [] => if line.isEmpty then [] else [line.reverse]
  | b :: bs =>
    if b = 10 then chompReturn line.reverse :: byteLinesFrom [] bs
    else byteLinesFrom (b :: line) bs

/-- The lines of a byte text. -/
def byteLines (bytes : List UInt8) : List (List UInt8) := byteLinesFrom [] bytes

/-- The text that a line of bytes encodes in UTF-8, if it does. -/
def decodeUtf8? (line : List UInt8) : Option String := String.fromUTF8? ⟨line.toArray⟩

end RoutingSessions
