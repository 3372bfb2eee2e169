/-
  Trees of events: what a stream is the flattening of. They allow more than a document,
  since any container may stand around anything.

  * `Wrapper` are the containers that collect what is in them and do nothing else;
    `Node` are the trees, `Node.events` flattens one;
  * `Block.nodes` are the trees of a block, and `eventsAll_nodesAll` says that a document
    has the stream of its trees.
-/
import JiraMarkup.Markdown.Event

namespace JiraMarkup.Markdown

/-! ## Trees -/

/-- A container that may stand around any trees. -/
inductive Wrapper where
  | paragraph
  | heading (level : Nat)
  | quote
  | list (start : Option Nat)
  | item
  | emphasis
  | strong
  | strikethrough
  | link (kind : LinkKind) (target title : Text)
  | image (target title : Text)
  /-- A container that adds no markup of its own. -/
  | plain
  deriving DecidableEq, Repr

/-- The tag of a wrapper. -/
def Wrapper.tag : Wrapper → Tag
  | .paragraph => .paragraph
  | .heading level => .heading level
  | .quote => .quote
  | .list start => .list start
  | .item => .item
  | .emphasis => .emphasis
  | .strong => .strong
  | .strikethrough => .strikethrough
  | .link kind target title => .link kind target title
  | .image target title => .image target title
  | .plain => .plain

theorem Wrapper.tag_ne_tableHead (w : Wrapper) : w.tag ≠ .tableHead := by
  cases w <;> simp [tag]

theorem Wrapper.isCodeBlock_tag (w : Wrapper) : w.tag.isCodeBlock = false := by
  cases w <;> rfl

/-- A tree of events. Code blocks hold text, blocks of HTML hold their pieces, tables hold
    a head row and body rows, and their cells hold running text. -/
inductive Node where
  /-- Running text. -/
  | inline (i : Inline)
  /-- A thematic break. -/
  | rule
  /-- Text that every writer copies. -/
  | verbatim (t : Text)
  | within (w : Wrapper) (inner : List Node)
  | code (kind : CodeKind) (pieces : List Text)
  | html (pieces : List HtmlPiece)
  | table (alignments : List Alignment) (head : List (List Inline))
      (rows : List (List (List Inline)))

mutual

/-- The stream of a tree. -/
def Node.events : Node → List Event
  | .inline i => Inline.events i
  | .rule => [.rule]
  | .verbatim t => [.verbatim t]
  | .within w inner => .enter w.tag :: (Node.eventsAll inner ++ [.leave w.tag])
  | .code kind pieces =>
    .enter (.codeBlock kind) :: (pieces.map .text ++ [.leave (.codeBlock kind)])
  | .html pieces => .enter .htmlBlock :: (pieces.map HtmlPiece.event ++ [.leave .htmlBlock])
  | .table alignments head rows =>
    .enter (.table alignments) ::
      (rowEvents .tableHead head ++ rows.flatMap (rowEvents .tableRow) ++
        [.leave (.table alignments)])

/-- The stream of the trees of a list. -/
def Node.eventsAll : List Node → List Event
  | [] => []
  | n :: ns => Node.events n ++ Node.eventsAll ns

end

theorem Node.eventsAll_append (ns ns' : List Node) :
    eventsAll (ns ++ ns') = eventsAll ns ++ eventsAll ns' := by
  induction ns with
  | nil => simp [eventsAll]
  | cons n ns ih => simp [eventsAll, ih]

theorem Node.eventsAll_map_inline (is : List Inline) :
    eventsAll (is.map .inline) = Inline.eventsAll is := by
  induction is with
  | nil => simp [eventsAll, Inline.eventsAll]
  | cons i is ih => simp [eventsAll, events, Inline.eventsAll, ih]

/-! ## Documents as trees -/

mutual

/-- The trees of a block. Text with no paragraph around it has one for each of its pieces. -/
def Block.nodes : Block (List Inline) → List Node
  | .paragraph content => [.within .paragraph (content.map .inline)]
  | .plain content => content.map .inline
  | .heading level content => [.within (.heading level) (content.map .inline)]
  | .quote inner => [.within .quote (Block.nodesAll inner)]
  | .list start items => [.within (.list start) (Block.nodesItems items)]
  | .code kind pieces => [.code kind pieces]
  | .html pieces => [.html pieces]
  | .table alignments head rows => [.table alignments head rows]
  | .rule => [.rule]
  | .plainGroup inner => [.within .plain (Block.nodesAll inner)]

/-- The trees of the blocks of a list. -/
def Block.nodesAll : List (Block (List Inline)) → List Node
  | [] => []
  | b :: bs => Block.nodes b ++ Block.nodesAll bs

/-- The trees of the items of a list. -/
def Block.nodesItems : List (List (Block (List Inline))) → List Node
  | [] => []
  | i :: is => .within .item (Block.nodesAll i) :: Block.nodesItems is

end

mutual

theorem Block.eventsAll_nodes : ∀ b : Block (List Inline), Node.eventsAll b.nodes = b.events
  | .paragraph content => by
    simp [nodes, events, Node.eventsAll, Node.events, Wrapper.tag, Node.eventsAll_map_inline]
  | .plain content => by simp [nodes, events, Node.eventsAll_map_inline]
  | .heading level content => by
    simp [nodes, events, Node.eventsAll, Node.events, Wrapper.tag, Node.eventsAll_map_inline]
  | .quote inner => by
    simp [nodes, events, Node.eventsAll, Node.events, Wrapper.tag, eventsAll_nodesAll inner]
  | .list start items => by
    simp [nodes, events, Node.eventsAll, Node.events, Wrapper.tag, eventsAll_nodesItems items]
  | .code kind pieces => by simp [nodes, events, Node.eventsAll, Node.events]
  | .html pieces => by simp [nodes, events, Node.eventsAll, Node.events]
  | .table alignments head rows => by simp [nodes, events, Node.eventsAll, Node.events]
  | .rule => by simp [nodes, events, Node.eventsAll, Node.events]
  | .plainGroup inner => by
    simp [nodes, events, Node.eventsAll, Node.events, Wrapper.tag, eventsAll_nodesAll inner]

/-- **A document has the stream of its trees.** -/
theorem Block.eventsAll_nodesAll : ∀ bs : List (Block (List Inline)),
    Node.eventsAll (Block.nodesAll bs) = Block.eventsAll bs
  | [] => by simp [nodesAll, eventsAll, Node.eventsAll]
  | b :: bs => by
    simp only [nodesAll, eventsAll, Node.eventsAll_append]
    rw [eventsAll_nodes b, eventsAll_nodesAll bs]

theorem Block.eventsAll_nodesItems : ∀ is : List (List (Block (List Inline))),
    Node.eventsAll (Block.nodesItems is) = Block.eventsItems is
  | [] => by simp [nodesItems, eventsItems, Node.eventsAll]
  | i :: is => by
    simp [nodesItems, eventsItems, Node.eventsAll, Node.events, Wrapper.tag,
      eventsAll_nodesAll i, eventsAll_nodesItems is]

end

end JiraMarkup.Markdown
