/-
  The code blocks of a stream, of the trees that it flattens, and those that are found in it.

  * `HoldsCode` are the streams in which code blocks are closed, do not nest and hold nothing
    but text, whatever stands around them, each with its code blocks;
  * `Node.codeBlocks` are the code blocks of a tree, with their code and their tags, and
    `Node.holdsCode_events` says that these are the code blocks of its stream;
  * `found_of_holdsCode`: the code blocks of a stream are those that are replaced in it, in their
    order; `found_eventsAll` says so for the stream of trees.
-/
import JiraMarkup.Html.CodeBlock
import JiraMarkup.Proofs.Markdown.Node

namespace JiraMarkup

open Html (CodeFound replaceCode replaceCodeFrom OpenCode)

/-! ## Trees -/

namespace Markdown

mutual

/-- The code blocks of a tree. -/
def Node.codeBlocks : Node → List CodeFound
  | .code kind pieces => [⟨pieces.flatten, kind.tag?⟩]
  | .within _ inner => Node.codeBlocksAll inner
  | .inline _ | .rule | .verbatim _ | .html _ | .table .. => []

/-- The code blocks of the trees of a list. -/
def Node.codeBlocksAll : List Node → List CodeFound
  | [] => []
  | n :: ns => Node.codeBlocks n ++ Node.codeBlocksAll ns

end

/-! ## Streams -/

/-- A stream whose code blocks are closed, do not nest and hold nothing but text, and these
    code blocks. Between them any events stand in any order. -/
inductive HoldsCode : List Event → List CodeFound → Prop where
  | nil : HoldsCode [] []
  | other {e : Event} {es : List Event} {found : List CodeFound}
      (he : ∀ kind, e ≠ .enter (.codeBlock kind)) (hes : HoldsCode es found) :
      HoldsCode (e :: es) found
  | block {kind kind' : CodeKind} {pieces : List Text} {es : List Event} {found : List CodeFound}
      (hes : HoldsCode es found) :
      HoldsCode (.enter (.codeBlock kind) :: (pieces.map .text ++ .leave (.codeBlock kind') :: es))
        (⟨pieces.flatten, kind.tag?⟩ :: found)

namespace HoldsCode

variable {es es' : List Event} {found found' : List CodeFound}

theorem append (h : HoldsCode es found) (h' : HoldsCode es' found') :
    HoldsCode (es ++ es') (found ++ found') := by
  induction h with
  | nil => exact h'
  | other he _ ih => exact .other he ih
  | block _ ih =>
    rw [List.cons_append, List.append_assoc]
    exact .block ih

/-- A single event that enters no code block. -/
theorem single {e : Event} (he : ∀ kind, e ≠ .enter (.codeBlock kind)) : HoldsCode [e] [] :=
  .other he .nil

/-- A part of a stream in a container that is no code block. -/
theorem within {tag : Tag} (htag : ∀ kind, tag ≠ .codeBlock kind) (h : HoldsCode es found) :
    HoldsCode (.enter tag :: (es ++ [.leave tag])) found := by
  have hleave : HoldsCode [.leave tag] [] := single fun kind heq => by cases heq
  have hall := h.append hleave
  rw [List.append_nil] at hall
  exact .other (fun kind heq => htag kind (Event.enter.inj heq)) hall

/-- Parts without code blocks. -/
theorem flatMap {α : Type} {f : α → List Event} :
    ∀ xs : List α, (∀ x ∈ xs, HoldsCode (f x) []) → HoldsCode (xs.flatMap f) []
  | [], _ => nil
  | x :: xs, h => by
    have hx := h x (by simp)
    exact hx.append (flatMap xs fun y hy => h y (by simp [hy]))

end HoldsCode

/-! ## The stream of trees -/

theorem Wrapper.tag_ne_codeBlock (w : Wrapper) (kind : CodeKind) : w.tag ≠ .codeBlock kind := by
  cases w <;> simp [tag]

mutual

theorem Inline.holdsCode_events : ∀ i : Inline, HoldsCode i.events []
  | .text _ | .code _ | .html _ | .softBreak | .hardBreak | .taskMarker _ =>
    .single fun kind heq => by cases heq
  | .emphasis inner | .strong inner | .strikethrough inner | .link _ _ _ inner
  | .image _ _ inner | .plainSpan inner =>
    .within (by simp) (Inline.holdsCode_eventsAll inner)

theorem Inline.holdsCode_eventsAll : ∀ is : List Inline, HoldsCode (Inline.eventsAll is) []
  | [] => .nil
  | i :: is => (Inline.holdsCode_events i).append (Inline.holdsCode_eventsAll is)

end

theorem holdsCode_rowEvents {tag : Tag} (htag : ∀ kind, tag ≠ .codeBlock kind)
    (cells : List (List Inline)) : HoldsCode (rowEvents tag cells) [] := by
  refine .within htag (.flatMap cells fun c _ => ?_)
  exact .within (by simp) (Inline.holdsCode_eventsAll c)

mutual

theorem Node.holdsCode_events : ∀ n : Node, HoldsCode n.events n.codeBlocks
  | .inline i => Inline.holdsCode_events i
  | .rule | .verbatim _ => .single fun kind heq => by cases heq
  | .within w inner => .within (Wrapper.tag_ne_codeBlock w) (Node.holdsCode_eventsAll inner)
  | .code kind pieces => .block .nil
  | .html pieces => by
    have hpieces : HoldsCode (pieces.map HtmlPiece.event) [] := by
      rw [List.map_eq_flatMap]
      exact .flatMap pieces fun p _ => .single fun kind heq => by cases p <;> cases heq
    exact .within (by simp) hpieces
  | .table _ head rows => by
    have hrows : HoldsCode (rows.flatMap (rowEvents .tableRow)) [] :=
      .flatMap rows fun r _ => holdsCode_rowEvents (by simp) r
    have hhead : HoldsCode (rowEvents .tableHead head) [] := holdsCode_rowEvents (by simp) head
    exact .within (by simp) (hhead.append hrows)

/-- **The stream of trees holds the code blocks of the trees.** -/
theorem Node.holdsCode_eventsAll : ∀ ns : List Node,
    HoldsCode (Node.eventsAll ns) (Node.codeBlocksAll ns)
  | [] => .nil
  | n :: ns => (Node.holdsCode_events n).append (Node.holdsCode_eventsAll ns)

end

/-- So does the stream of a document. -/
theorem holdsCode_events (doc : Document) :
    HoldsCode (events doc) (Node.codeBlocksAll (Block.nodesAll doc)) := by
  rw [events, ← Block.eventsAll_nodesAll]
  exact Node.holdsCode_eventsAll _

end Markdown

open Markdown (Node Event CodeKind HoldsCode)

/-! ## What is found -/

namespace Html

variable {block : Text → Option Text → Text}

/-- The text in a code block is collected. -/
theorem replaceCodeFrom_pieces (o : OpenCode) (pieces : List Text) (rest : List Event) :
    replaceCodeFrom block (some o) (pieces.map .text ++ rest) =
      replaceCodeFrom block (some ⟨o.kind, pieces.reverse ++ o.pieces⟩) rest := by
  induction pieces generalizing o with
  | nil => rfl
  | cons t ts ih =>
    rw [List.map_cons, List.cons_append, replaceCodeFrom, ih]
    simp

/-- **A code block is replaced as a whole**, and found with its text and its tag. -/
theorem replaceCode_block (kind kind' : CodeKind) (pieces : List Text) (rest : List Event) :
    replaceCode block
        (.enter (.codeBlock kind) :: (pieces.map .text ++ .leave (.codeBlock kind') :: rest)) =
      let b : CodeFound := ⟨pieces.flatten, kind.tag?⟩
      (b.event block :: (replaceCode block rest).1, b :: (replaceCode block rest).2) := by
  rw [replaceCode, replaceCodeFrom, replaceCodeFrom_pieces, replaceCodeFrom]
  simp [OpenCode.found, replaceCode]

/-- Any other event is passed on. -/
theorem replaceCode_other {e : Event} (he : ∀ kind, e ≠ .enter (.codeBlock kind))
    (rest : List Event) : replaceCode block (e :: rest) =
      (e :: (replaceCode block rest).1, (replaceCode block rest).2) := by
  rw [replaceCode, replaceCodeFrom]
  · rfl
  · exact he

/-- **The code blocks of a stream are found**, in their order, whatever is written for them. -/
theorem found_of_holdsCode (block : Text → Option Text → Text) {es : List Event}
    {found : List CodeFound} (h : HoldsCode es found) : (replaceCode block es).2 = found := by
  induction h with
  | nil => rfl
  | other he _ ih => rw [replaceCode_other he, ih]
  | block _ ih => rw [replaceCode_block, ih]

/-- The code blocks found in the stream of trees are those of the trees. -/
theorem found_eventsAll (block : Text → Option Text → Text) (ns : List Node) :
    (replaceCode block (Node.eventsAll ns)).2 = Node.codeBlocksAll ns :=
  found_of_holdsCode block (Node.holdsCode_eventsAll ns)

end Html

end JiraMarkup
