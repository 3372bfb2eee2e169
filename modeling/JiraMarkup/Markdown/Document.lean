/-
  Markdown documents as trees: what the reader makes of a text and what every
  output is written from.

  * `Inline` is running text: words, breaks, emphasis, links, images, code;
  * `Block` is what stands on lines of its own. It is a type constructor: the
    contents of its paragraphs, headings and cells are source text while the
    lines are read, and lists of `Inline` in the finished `Document`;
  * `Block.map` changes the contents and nothing else.
-/
import JiraMarkup.Text.Blank

namespace JiraMarkup.Markdown

/-! ## Running text -/

/-- How a link was written. -/
inductive LinkKind where
  /-- With a text in brackets. -/
  | bracketed
  /-- A bare address between angle brackets. -/
  | address
  /-- A bare e-mail address between angle brackets. -/
  | email
  deriving DecidableEq, Repr

/-- A piece of running text. -/
inductive Inline where
  /-- Characters that stand for themselves. -/
  | text (t : Text)
  /-- A code span. -/
  | code (t : Text)
  /-- An HTML tag or comment, as written. -/
  | html (t : Text)
  /-- The end of a source line within a paragraph. -/
  | softBreak
  /-- A line break that the author asked for. -/
  | hardBreak
  /-- Emphasis. -/
  | emphasis (inner : List Inline)
  /-- Strong emphasis. -/
  | strong (inner : List Inline)
  /-- Struck-out text. -/
  | strikethrough (inner : List Inline)
  /-- A link. -/
  | link (kind : LinkKind) (target title : Text) (inner : List Inline)
  /-- An image, with its description inside. -/
  | image (target title : Text) (inner : List Inline)
  /-- The box of a task item, ticked or not. -/
  | taskMarker (checked : Bool)
  /-- A span that adds no markup of its own. -/
  | plainSpan (inner : List Inline)

/-! ## Blocks -/

/-- How the text of a table column is aligned. -/
inductive Alignment where
  | none
  | left
  | center
  | right
  deriving DecidableEq, Repr

/-- How a code block was written: indented, or fenced with an info string. -/
inductive CodeKind where
  | indented
  | fenced (info : Text)
  deriving DecidableEq, Repr

/-- The tag of a code block: the first word of its info string. -/
def CodeKind.tag? : CodeKind → Option Text
  | .indented => none
  | .fenced info => info.firstWord?

/-- A piece of an HTML block. -/
inductive HtmlPiece where
  /-- The indentation of the first line. -/
  | indent (t : Text)
  /-- A line as written. -/
  | raw (t : Text)
  deriving DecidableEq, Repr

/-- A block, whose paragraphs, headings and cells hold contents of type `α`. -/
inductive Block (α : Type) where
  /-- A paragraph. -/
  | paragraph (content : α)
  /-- Text with no paragraph around it, as in the items of a tight list. -/
  | plain (content : α)
  /-- A heading, of level 1 to 6. -/
  | heading (level : Nat) (content : α)
  /-- A block quote. -/
  | quote (inner : List (Block α))
  /-- A list: ordered, if it has a first number. -/
  | list (start : Option Nat) (items : List (List (Block α)))
  /-- A code block, in the pieces it was read in. -/
  | code (kind : CodeKind) (pieces : List Text)
  /-- A block of HTML. -/
  | html (pieces : List HtmlPiece)
  /-- A table, with its head row and its body rows. -/
  | table (alignments : List Alignment) (head : List α) (rows : List (List α))
  /-- A thematic break. -/
  | rule
  /-- A container that adds no markup of its own. -/
  | plainGroup (inner : List (Block α))

/-! ## Changing the contents -/

variable {α β : Type}

namespace Block

mutual

/-- The block with `f` applied to each of its contents. -/
def map (f : α → β) : Block α → Block β
  | .paragraph a => .paragraph (f a)
  | .plain a => .plain (f a)
  | .heading level a => .heading level (f a)
  | .quote bs => .quote (mapAll f bs)
  | .list start items => .list start (mapItems f items)
  | .code kind pieces => .code kind pieces
  | .html pieces => .html pieces
  | .table alignments head rows =>
    .table alignments (head.map f) (rows.map fun row => row.map f)
  | .rule => .rule
  | .plainGroup bs => .plainGroup (mapAll f bs)

/-- `map` on each block of a list. -/
def mapAll (f : α → β) : List (Block α) → List (Block β)
  | [] => []
  | b :: bs => map f b :: mapAll f bs

/-- `map` on each block of each item of a list. -/
def mapItems (f : α → β) : List (List (Block α)) → List (List (Block β))
  | [] => []
  | i :: is => mapAll f i :: mapItems f is

end

/-- The block as it stands in an item of a tight list: a paragraph becomes
    plain text. -/
def tighten : Block α → Block α
  | .paragraph a => .plain a
  | b => b

end Block

/-- A finished document. -/
abbrev Document := List (Block (List Inline))

end JiraMarkup.Markdown
