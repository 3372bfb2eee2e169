/-
  What trees of events are rendered as, by structural recursion: each construct is written
  of the output of what is inside it, and after it.

  * `Written` is what has been rendered: an output, and the constructs written on the way;
    `Written.append` and `Written.enclose` put such parts together;
  * `Inline.rendered` and `Node.rendered` give it for running text and for trees;
  * `Block.output` is the output of a block, and the lemmas `Block.output_quote` and so on
    are the recursion on documents.
-/
import JiraMarkup.Proofs.Markdown.Node
import JiraMarkup.Wiki.Rendering

namespace JiraMarkup

/-! ## Parts -/

namespace Wiki

/-- What has been rendered. -/
@[ext] structure Written where
  /-- The output. -/
  output : Text
  /-- The constructs that were written, in order. -/
  constructs : List Construct

namespace Written

/-- Nothing. -/
def nothing : Written := ⟨[], []⟩

/-- One after the other. -/
def append (a b : Written) : Written := ⟨a.output ++ b.output, a.constructs ++ b.constructs⟩

instance : Append Written := ⟨append⟩

/-- The parts of a list, one after the other. -/
def concat : List Written → Written
  | [] => nothing
  | a :: as => a ++ concat as

/-- Text that is copied. -/
def copied (t : Text) : Written := ⟨t, []⟩

/-- A construct with nothing inside. -/
def single (m : Markup) (n : Construct) : Written := ⟨n.write m, [n]⟩

/-- The construct that `n` makes of the output of `a`, written after all that is inside. -/
def enclose (m : Markup) (n : Text → Construct) (a : Written) : Written :=
  ⟨(n a.output).write m, a.constructs ++ [n a.output]⟩

@[simp] theorem output_nothing : nothing.output = [] := rfl

@[simp] theorem output_append (a b : Written) : (a ++ b).output = a.output ++ b.output := rfl

@[simp] theorem constructs_append (a b : Written) :
    (a ++ b).constructs = a.constructs ++ b.constructs := rfl

@[simp] theorem output_concat (as : List Written) :
    (concat as).output = as.flatMap Written.output := by
  induction as with
  | nil => rfl
  | cons a as ih => simp [concat, ih]

@[simp] theorem output_copied (t : Text) : (copied t).output = t := rfl

@[simp] theorem output_single (m : Markup) (n : Construct) : (single m n).output = n.write m := rfl

@[simp] theorem output_enclose (m : Markup) (n : Text → Construct) (a : Written) :
    (a.enclose m n).output = (n a.output).write m := rfl

@[simp] theorem append_nothing (a : Written) : a ++ nothing = a := by
  ext1 <;> simp [nothing]

@[simp] theorem nothing_append (a : Written) : nothing ++ a = a := by
  ext1 <;> simp [nothing]

theorem append_assoc (a b c : Written) : a ++ b ++ c = a ++ (b ++ c) := by
  ext1 <;> simp

end Written

end Wiki

/-! ## Trees -/

namespace Markdown

open Wiki (Markup Construct Written linkText dropNewline)
open Wiki.Written (nothing concat copied single)

mutual

/-- What a piece of running text is rendered as. -/
def Inline.rendered (m : Markup) : Inline → Written
  | .text t => single m (.text t)
  | .code t => single m (.codeSpan t)
  | .html t => single m (.html t)
  | .softBreak => single m (.text "\n")
  | .hardBreak => single m .lineBreak
  | .emphasis inner => (Inline.renderedAll m inner).enclose m .emphasis
  | .strong inner => (Inline.renderedAll m inner).enclose m .strong
  | .strikethrough inner => (Inline.renderedAll m inner).enclose m .strikethrough
  | .link kind target _ inner =>
    (Inline.renderedAll m inner).enclose m fun t => .link target (linkText kind target t)
  | .image target _ inner => (Inline.renderedAll m inner).enclose m fun _ => .image target
  | .taskMarker checked => single m (.checkbox checked) ++ copied [' ']
  | .plainSpan inner => Inline.renderedAll m inner

/-- What running text is rendered as. -/
def Inline.renderedAll (m : Markup) : List Inline → Written
  | [] => nothing
  | i :: is => Inline.rendered m i ++ Inline.renderedAll m is

end

/-- What a cell is rendered as; `header` if it is in the head of its table. -/
def renderedCell (m : Markup) (header : Bool) (content : List Inline) : Written :=
  (Inline.renderedAll m content).enclose m (.tableCell · header)

/-- What a row of cells is rendered as. -/
def renderedRow (m : Markup) (header : Bool) (cells : List (List Inline)) : Written :=
  (concat (cells.map (renderedCell m header))).enclose m .tableRow

/-- What a table is rendered as: its rows first, the head row apart from the others. -/
def renderedTable (m : Markup) (head : List (List Inline)) (rows : List (List (List Inline))) :
    Written :=
  let h := renderedRow m true head
  let b := concat (rows.map (renderedRow m false))
  ⟨m.table h.output b.output, h.constructs ++ b.constructs ++ [.table h.output b.output]⟩

/-- What a piece of an HTML block is rendered as. -/
def HtmlPiece.rendered (m : Markup) : HtmlPiece → Written
  | .indent t => single m (.text t)
  | .raw t => copied t

/-- What a wrapper makes of what is in it. -/
def Wrapper.enclose (m : Markup) (a : Written) : Wrapper → Written
  | .paragraph => a.enclose m .paragraph
  | .heading level => a.enclose m (.heading level)
  | .quote => a.enclose m .blockquote
  | .list start => a.enclose m (.list · start.isSome)
  | .item => a.enclose m .listItem
  | .emphasis => a.enclose m .emphasis
  | .strong => a.enclose m .strong
  | .strikethrough => a.enclose m .strikethrough
  | .link kind target _ => a.enclose m fun t => .link target (linkText kind target t)
  | .image target _ => a.enclose m fun _ => .image target
  | .plain => a

mutual

/-- What a tree is rendered as. -/
def Node.rendered (m : Markup) : Node → Written
  | .inline i => i.rendered m
  | .rule => single m .rule
  | .verbatim t => copied t
  | .within w inner => w.enclose m (Node.renderedAll m inner)
  | .code kind pieces =>
    (copied pieces.flatten).enclose m fun t => .codeBlock (dropNewline t) kind.tag?
  | .html pieces => (concat (pieces.map (HtmlPiece.rendered m))).enclose m .html
  | .table _ head rows => renderedTable m head rows

/-- What the trees of a list are rendered as. -/
def Node.renderedAll (m : Markup) : List Node → Written
  | [] => nothing
  | n :: ns => Node.rendered m n ++ Node.renderedAll m ns

end

@[simp] theorem Node.renderedAll_append (m : Markup) (ns ns' : List Node) :
    renderedAll m (ns ++ ns') = renderedAll m ns ++ renderedAll m ns' := by
  induction ns with
  | nil => simp [renderedAll]
  | cons n ns ih => simp [renderedAll, ih, Written.append_assoc]

@[simp] theorem Node.renderedAll_map_inline (m : Markup) (is : List Inline) :
    renderedAll m (is.map .inline) = Inline.renderedAll m is := by
  induction is with
  | nil => rfl
  | cons i is ih => simp [renderedAll, rendered, Inline.renderedAll, ih]

/-! ## Documents -/

variable {m : Markup}

/-- The output of running text. -/
def Inline.output (m : Markup) (is : List Inline) : Text := (Inline.renderedAll m is).output

/-- The output of a block. -/
def Block.output (m : Markup) (b : Block (List Inline)) : Text :=
  (Node.renderedAll m b.nodes).output

/-- The output of the blocks of a list. -/
def Block.outputAll (m : Markup) (bs : List (Block (List Inline))) : Text :=
  (Node.renderedAll m (Block.nodesAll bs)).output

namespace Block

@[simp] theorem outputAll_nil : outputAll m [] = [] := rfl

@[simp] theorem outputAll_cons (b : Block (List Inline)) (bs : List (Block (List Inline))) :
    outputAll m (b :: bs) = b.output m ++ outputAll m bs := by
  simp [outputAll, output, nodesAll]

theorem output_nodesItems (items : List (List (Block (List Inline)))) :
    (Node.renderedAll m (nodesItems items)).output =
      items.flatMap fun i => m.listItem (outputAll m i) := by
  induction items with
  | nil => rfl
  | cons i is ih =>
    rw [nodesItems, Node.renderedAll, Written.output_append, ih]
    rfl

theorem output_of_nodes {b : Block (List Inline)} {n : Node} (h : nodes b = [n]) :
    output m b = (n.rendered m).output := by
  rw [output, h, Node.renderedAll, Node.renderedAll, Written.append_nothing]

theorem output_paragraph (content : List Inline) :
    output m (.paragraph content) = m.paragraph (Inline.output m content) := by
  rw [output_of_nodes rfl, Inline.output, ← Node.renderedAll_map_inline]
  rfl

theorem output_plain (content : List Inline) :
    output m (.plain content) = Inline.output m content := by
  rw [Inline.output, ← Node.renderedAll_map_inline]
  rfl

theorem output_heading (level : Nat) (content : List Inline) :
    output m (.heading level content) = m.heading level (Inline.output m content) := by
  rw [output_of_nodes rfl, Inline.output, ← Node.renderedAll_map_inline]
  rfl

theorem output_quote (inner : List (Block (List Inline))) :
    output m (.quote inner) = m.blockquote (outputAll m inner) := by
  rw [output_of_nodes rfl]
  rfl

theorem output_list (start : Option Nat) (items : List (List (Block (List Inline)))) :
    output m (.list start items) =
      m.list (items.flatMap fun i => m.listItem (outputAll m i)) start.isSome := by
  rw [output_of_nodes rfl, ← output_nodesItems]
  rfl

theorem output_code (kind : CodeKind) (pieces : List Text) :
    output m (.code kind pieces) = m.codeBlock (dropNewline pieces.flatten) kind.tag? := by
  rw [output_of_nodes rfl]
  rfl

theorem output_html (pieces : List HtmlPiece) :
    output m (.html pieces) = m.html (pieces.flatMap fun p => (p.rendered m).output) := by
  have hpieces : (concat (pieces.map (HtmlPiece.rendered m))).output =
      pieces.flatMap fun p => (p.rendered m).output := by
    rw [Written.output_concat, List.flatMap_map]
  rw [output_of_nodes rfl, ← hpieces]
  rfl

theorem output_table (alignments : List Alignment) (head : List (List Inline))
    (rows : List (List (List Inline))) :
    output m (.table alignments head rows) = m.table (renderedRow m true head).output
      (rows.flatMap fun r => (renderedRow m false r).output) := by
  have hrows : (concat (rows.map (renderedRow m false))).output =
      rows.flatMap fun r => (renderedRow m false r).output := by
    rw [Written.output_concat, List.flatMap_map]
  rw [output_of_nodes rfl, ← hrows]
  rfl

theorem output_rule : output m .rule = m.rule := by
  rw [output_of_nodes rfl]
  rfl

theorem output_plainGroup (inner : List (Block (List Inline))) :
    output m (.plainGroup inner) = outputAll m inner := by
  rw [output_of_nodes rfl]
  rfl

end Block

end Markdown

end JiraMarkup
