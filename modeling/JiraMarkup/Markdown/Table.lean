/-
  The rows of tables.

  A pipe separates cells unless a backslash stands right before it.

  * `delimiterRow?` reads the row under the head, which gives the alignments;
  * `columnCount` counts the columns of a head row;
  * `cells` are the cells of a row, without the backslashes before pipes.
-/
import JiraMarkup.Markdown.Cursor
import JiraMarkup.Markdown.Document

namespace JiraMarkup.Markdown

/-- The pieces of a row between its separating pipes; `escaped` tells whether a
    backslash came last. A backslash before a pipe is dropped. -/
def rowPieces (escaped : Bool) : Text → List Text
  | [] => [if escaped then ['\\'] else []]
  | c :: t =>
    if c = '|' ∧ ¬escaped then [] :: rowPieces false t
    else
      let kept := if escaped ∧ c ≠ '|' then ['\\'] else []
      let shown := if c = '\\' then kept else kept ++ [c]
      match rowPieces (c = '\\') t with
      | [] => [shown]
      | p :: ps => (shown ++ p) :: ps

/-- The pieces of a row that make up its columns: not the empty text before a pipe
    at its front, nor the blanks behind a pipe at its end. -/
def columns (pieces : List Text) : List Text :=
  let inner := match pieces with
    | [] :: p :: ps => p :: ps
    | ps => ps
  if inner.getLast?.all Text.isBlankLine then inner.dropLast else inner

/-- The cells of a row. -/
def cells (row : Text) : List Text :=
  (columns (rowPieces false row)).map fun p => Text.trimBlankEnd (p.dropWhile isBlank)

/-- The number of columns of a row that has a separating pipe. -/
def columnCount? (row : Text) : Option Nat :=
  let pieces := rowPieces false (row.dropWhile isBlank)
  if pieces.length < 2 then none else some (columns pieces).length

/-- The alignment that a column of the delimiter row gives. -/
def alignment? (column : Text) : Option Alignment :=
  if column.contains '-' && column.all (fun c => c == '-' || c == ':') then
    some (match column.head? == some ':', (column.drop 1).contains ':' with
      | true, true => .center
      | true, false => .left
      | false, true => .right
      | false, false => .none)
  else none

/-- The characters of a delimiter row. -/
def isDelimiter (c : Char) : Bool := c == '-' || c == ':' || c == '|' || c == ' '

/-- The alignments of a delimiter row, a line indented by less than four columns
    that has a pipe; spaces may stand anywhere in it. -/
def delimiterRow? (c : Cursor) : Option (List Alignment) :=
  let (k, c) := c.skipColumns 4
  if 4 ≤ k || !c.rest.all isDelimiter || !c.rest.contains '|' || !c.rest.contains '-' then none
  else (columns (rowPieces false (c.rest.filter (· != ' ')))).mapM alignment?

/-- The cells of a row, as many as there are columns: the last ones are dropped or
    empty ones added. -/
def fitCells (n : Nat) (row : List Text) : List Text :=
  (row ++ List.replicate n []).take n

end JiraMarkup.Markdown
