/-
  A reading position within a line, for the indentation of blocks.

  Indentation is counted in columns. A tab reaches to the next multiple of four
  columns, and a container may use a part of it only; the columns left over
  then belong to what stands in the container.

  * `Cursor` is the rest of a line with its column and the columns left over;
  * `Cursor.skipColumns n` passes up to `n` columns of indentation;
  * `Cursor.text` is the rest as text, the columns left over as spaces.
-/
import JiraMarkup.Text.Blank

namespace JiraMarkup.Markdown

/-- A position within a line. -/
structure Cursor where
  /-- The characters from here on. -/
  rest : Text
  /-- The column, counted from the last tab. -/
  column : Nat
  /-- The columns of the last tab that nothing has used. -/
  spare : Nat

namespace Cursor

/-- The beginning of a line. -/
def ofLine (line : Text) : Cursor := ⟨line, 0, 0⟩

/-- Whether nothing but columns of a tab is left. -/
def atEnd (c : Cursor) : Bool := c.rest.isEmpty

/-- The rest of the line, with a space for each column left over from a tab. -/
def text (c : Cursor) : Text := List.replicate c.spare ' ' ++ c.rest

/-- The rest of the line without its indentation. -/
def unindented (c : Cursor) : Text := c.rest.dropWhile isIndent

/-- Passes up to `n` columns from column `col` on; also counts them. -/
def pass (n col : Nat) : Text → Nat × Cursor
  | [] => (0, ⟨[], col, 0⟩)
  | c :: t =>
    if n = 0 then (0, ⟨c :: t, col, 0⟩)
    else if c = ' ' then
      let (k, cur) := pass (n - 1) (col + 1) t
      (k + 1, cur)
    else if c = '\t' then
      let width := 4 - col % 4
      if width ≤ n then
        let (k, cur) := pass (n - width) 0 t
        (k + width, cur)
      else (n, ⟨t, 0, width - n⟩)
    else (0, ⟨c :: t, col, 0⟩)

/-- Passes up to `n` columns of indentation, those left over from a tab first;
    also counts them. -/
def skipColumns (n : Nat) (c : Cursor) : Nat × Cursor :=
  if n ≤ c.spare then (n, { c with spare := c.spare - n })
  else
    let (k, cur) := pass (n - c.spare) c.column c.rest
    (c.spare + k, cur)

/-- The cursor `n` characters further, none of them a tab. -/
def advance (n : Nat) (c : Cursor) : Cursor :=
  { c with rest := c.rest.drop n, column := c.column + n }

end Cursor

end JiraMarkup.Markdown
