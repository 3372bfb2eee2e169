/-
  Documents as streams of events: a container is entered, its contents follow,
  and it is left again.

  * `Tag` names the containers, `Event` what a stream consists of;
  * `Inline.events`, `Block.events` and `events` write a tree as the stream
    that its writers consume, in document order.
-/
import JiraMarkup.Markdown.Document

namespace JiraMarkup.Markdown

/-! ## Events -/

/-- The containers of a stream. -/
inductive Tag where
  | paragraph
  | heading (level : Nat)
  | quote
  | codeBlock (kind : CodeKind)
  | htmlBlock
  /-- A list: ordered, if it has a first number. -/
  | list (start : Option Nat)
  | item
  | table (alignments : List Alignment)
  | tableHead
  | tableRow
  | tableCell
  | emphasis
  | strong
  | strikethrough
  | link (kind : LinkKind) (target title : Text)
  | image (target title : Text)
  /-- A container that adds no markup of its own. -/
  | plain
  deriving DecidableEq, Repr

/-- Whether the tag is that of a code block. -/
def Tag.isCodeBlock : Tag → Bool
  | .codeBlock _ => true
  | _ => false

/-- One event of a stream. -/
inductive Event where
  /-- A container begins. -/
  | enter (tag : Tag)
  /-- A container ends. -/
  | leave (tag : Tag)
  /-- Text, in running text or in a code block. -/
  | text (t : Text)
  /-- A code span. -/
  | code (t : Text)
  /-- A line of an HTML block. -/
  | html (t : Text)
  /-- An HTML tag or comment in running text. -/
  | inlineHtml (t : Text)
  | softBreak
  | hardBreak
  /-- A thematic break. -/
  | rule
  /-- The box of a task item. -/
  | taskMarker (checked : Bool)
  /-- Text that every writer copies. -/
  | verbatim (t : Text)
  deriving DecidableEq, Repr

/-! ## From trees to streams -/

mutual

/-- The stream of a piece of running text. -/
def Inline.events : Inline → List Event
  | .text t => [.text t]
  | .code t => [.code t]
  | .html t => [.inlineHtml t]
  | .softBreak => [.softBreak]
  | .hardBreak => [.hardBreak]
  | .emphasis inner => .enter .emphasis :: (Inline.eventsAll inner ++ [.leave .emphasis])
  | .strong inner => .enter .strong :: (Inline.eventsAll inner ++ [.leave .strong])
  | .strikethrough inner =>
    .enter .strikethrough :: (Inline.eventsAll inner ++ [.leave .strikethrough])
  | .link kind target title inner =>
    .enter (.link kind target title) ::
      (Inline.eventsAll inner ++ [.leave (.link kind target title)])
  | .image target title inner =>
    .enter (.image target title) :: (Inline.eventsAll inner ++ [.leave (.image target title)])
  | .taskMarker checked => [.taskMarker checked]
  | .plainSpan inner => .enter .plain :: (Inline.eventsAll inner ++ [.leave .plain])

/-- The stream of running text. -/
def Inline.eventsAll : List Inline → List Event
  | [] => []
  | i :: is => Inline.events i ++ Inline.eventsAll is

end

/-- The stream of a piece of an HTML block. -/
def HtmlPiece.event : HtmlPiece → Event
  | .indent t => .text t
  | .raw t => .html t

/-- The stream of a row of cells, between the events of `tag`. -/
def rowEvents (tag : Tag) (cells : List (List Inline)) : List Event :=
  .enter tag ::
    (cells.flatMap (fun c => .enter .tableCell :: (Inline.eventsAll c ++ [.leave .tableCell])) ++
      [.leave tag])

mutual

/-- The stream of a block. -/
def Block.events : Block (List Inline) → List Event
  | .paragraph content => .enter .paragraph :: (Inline.eventsAll content ++ [.leave .paragraph])
  | .plain content => Inline.eventsAll content
  | .heading level content =>
    .enter (.heading level) :: (Inline.eventsAll content ++ [.leave (.heading level)])
  | .quote inner => .enter .quote :: (Block.eventsAll inner ++ [.leave .quote])
  | .list start items => .enter (.list start) :: (Block.eventsItems items ++ [.leave (.list start)])
  | .code kind pieces =>
    .enter (.codeBlock kind) :: (pieces.map .text ++ [.leave (.codeBlock kind)])
  | .html pieces => .enter .htmlBlock :: (pieces.map HtmlPiece.event ++ [.leave .htmlBlock])
  | .table alignments head rows =>
    .enter (.table alignments) ::
      (rowEvents .tableHead head ++ rows.flatMap (rowEvents .tableRow) ++
        [.leave (.table alignments)])
  | .rule => [.rule]
  | .plainGroup inner => .enter .plain :: (Block.eventsAll inner ++ [.leave .plain])

/-- The stream of the blocks of a list. -/
def Block.eventsAll : List (Block (List Inline)) → List Event
  | [] => []
  | b :: bs => Block.events b ++ Block.eventsAll bs

/-- The stream of the items of a list. -/
def Block.eventsItems : List (List (Block (List Inline))) → List Event
  | [] => []
  | i :: is => .enter .item :: (Block.eventsAll i ++ .leave .item :: Block.eventsItems is)

end

/-- The stream of a document. -/
def events (doc : Document) : List Event := Block.eventsAll doc

end JiraMarkup.Markdown
