/-
  Where the blocks of a document begin.

  * `Node.IsBlock` are the blocks at the top of a document, `AtLineStart` are the texts that are
    followed by the start of a line;
  * `getLast?_block`: every block ends with a newline, but for a block quote;
  * `Opened` says what a block begins its line with, `exists_opened_block` that it does;
  * `heading_after_quote`: a heading that follows a block quote is not at the start of a line;
  * `blocks_start_lines`: all blocks are at the start of a line, but for those that follow a
    block quote and write no newline of their own.
-/
import JiraMarkup.Proofs.Wiki.KeptText
import JiraMarkup.Proofs.Wiki.ListLines

namespace JiraMarkup

/-! ## Blocks -/

namespace Markdown

/-- The blocks at the top of a document, with anything in them. A block of HTML is copied, so
    that it has to end its last line itself. -/
inductive Node.IsBlock : Node → Prop where
  | paragraph (inner : List Node) : IsBlock (.within .paragraph inner)
  | heading (level : Nat) (inner : List Node) : IsBlock (.within (.heading level) inner)
  | quote (inner : List Node) : IsBlock (.within .quote inner)
  | list (start : Option Nat) (inner : List Node) : IsBlock (.within (.list start) inner)
  | code (kind : CodeKind) (pieces : List Text) : IsBlock (.code kind pieces)
  | html {pieces : List HtmlPiece} (h : (pieces.flatMap HtmlPiece.text).getLast? = some '\n') :
      IsBlock (.html pieces)
  | table (alignments : List Alignment) (head : List (List Inline))
      (rows : List (List (List Inline))) : IsBlock (.table alignments head rows)
  | rule : IsBlock .rule

/-- Whether a tree is a block quote. -/
def Node.isQuote : Node → Bool
  | .within .quote _ => true
  | _ => false

end Markdown

namespace Wiki

open Markdown (Inline Node renderedCell renderedRow)
open Text (filled)
open Written (concat)

variable {settings : Settings}

/-! ## Their ends -/

/-- What follows the text is at the start of a line: nothing is before it, or a newline. -/
def AtLineStart (t : Text) : Prop := ∀ c ∈ t.getLast?, c = '\n'

instance (t : Text) : Decidable (AtLineStart t) :=
  inferInstanceAs (Decidable (∀ c ∈ t.getLast?, c = '\n'))

/-- The last character that a block is written with. -/
def lastChar (n : Node) : Char := if n.isQuote then '}' else '\n'

theorem getLast?_append_ending (t : Text) {ending : Text} {c : Char}
    (h : ending.getLast? = some c) : (t ++ ending).getLast? = some c := by
  rw [List.getLast?_append, h, Option.some_or]

/-- **Every block ends with a newline, but for a block quote.** -/
theorem getLast?_block {n : Node} (h : n.IsBlock) :
    (n.rendered (jira settings)).output.getLast? = some (lastChar n) := by
  have hnewline : ['\n'].getLast? = some '\n' := rfl
  have hnewlines : ['\n', '\n'].getLast? = some '\n' := rfl
  cases h with
  | paragraph inner => exact getLast?_append_ending _ hnewlines
  | heading level inner => exact getLast?_append_ending _ hnewlines
  | quote inner =>
    have hquote : "\x7bquote\x7d".toList.getLast? = some '}' := rfl
    exact getLast?_append_ending _ hquote
  | list start inner => exact getLast?_append_ending ('\n' :: _) hnewlines
  | code kind pieces =>
    have hcode : "\n\x7bcode\x7d\n\n".toList.getLast? = some '\n' := rfl
    exact getLast?_append_ending _ hcode
  | html h =>
    rw [Node.output_html, h]
    rfl
  | table alignments head rows => exact getLast?_append_ending _ hnewline
  | rule => rfl

/-- Some blocks end as the last of them does. -/
theorem getLast?_blocks {ns : List Node} (h : ∀ n ∈ ns, n.IsBlock) :
    (Node.renderedAll (jira settings) ns).output.getLast? = ns.getLast?.map lastChar := by
  induction ns with
  | nil => rfl
  | cons n ns ih =>
    rw [List.forall_mem_cons] at h
    rw [Node.renderedAll, Written.output_append, List.getLast?_append, ih h.2, getLast?_block h.1,
      List.getLast?_cons]
    cases ns.getLast? <;> rfl

/-- Whether the last of some trees is a block quote. -/
def endsInQuote (ns : List Node) : Bool := ns.getLast?.any Node.isQuote

/-- **After some blocks a line starts, unless the last is a block quote.** -/
theorem atLineStart_blocks {ns : List Node} (h : ∀ n ∈ ns, n.IsBlock) :
    AtLineStart (Node.renderedAll (jira settings) ns).output ↔ endsInQuote ns = false := by
  rw [AtLineStart, getLast?_blocks h, endsInQuote]
  cases ns.getLast? with
  | none => simp
  | some n => cases hn : n.isQuote <;> simp [lastChar, hn]

/-! ## Their starts -/

/-- The newline that rules and lists write first, and other blocks do not. -/
def lead : Node → Text
  | .rule | .within (.list _) _ => ['\n']
  | _ => []

/-- `t` begins as a block does, after its own newline if it writes one: a heading with its
    level, a table with a header cell, a rule with its dashes. All lines of a list do. -/
def Opened : Node → Text → Prop
  | .within (.heading level) _, t =>
    "h".toList ++ Text.ofNat (max 1 (min level 6)) ++ ". ".toList <+: t
  | .table _ (_ :: _) _, t => "||".toList <+: t
  | .rule, t => "----".toList <+: t
  | .within (.list start) _, t => ∀ line ∈ filled (Text.lines t), BehindMarkers start.isSome line
  | _, _ => True

/-- The lines of a list are behind markers. -/
theorem behindMarkers_list {body t : Text} {ordered : Bool} (h : list body ordered = '\n' :: t) :
    ∀ line ∈ filled (Text.lines t), BehindMarkers ordered line := by
  intro line hline
  have hlines := filled_lines_list body ordered
  rw [h, Text.lines_newline, Text.filled_cons_nil] at hlines
  rw [hlines] at hline
  obtain ⟨l, -, rfl⟩ := List.mem_map.1 hline
  exact (markerLine_mergeBullets ordered l).front

/-- A row begins with its first cell. -/
theorem prefix_renderedRow (header : Bool) (cell : List Inline) (cells : List (List Inline)) :
    (renderedCell (jira settings) header cell).output <+:
      (renderedRow (jira settings) header (cell :: cells)).output := by
  have hcells : (renderedCell (jira settings) header cell).output <+:
      (concat ((cell :: cells).map (renderedCell (jira settings) header))).output :=
    List.prefix_append _ _
  exact hcells.trans (List.prefix_append _ _)

/-- **Blocks begin with their markup**, after their own newline if they write one. -/
theorem exists_opened_block (settings : Settings) {n : Node} (h : n.IsBlock) :
    ∃ t, (n.rendered (jira settings)).output = lead n ++ t ∧ Opened n t := by
  cases h with
  | heading level inner =>
    refine ⟨_, rfl, ?_⟩
    exact (List.prefix_append _ _).trans (List.prefix_append _ _)
  | list start inner =>
    refine ⟨_, rfl, ?_⟩
    exact behindMarkers_list rfl
  | table alignments head rows =>
    refine ⟨_, rfl, ?_⟩
    cases head with
    | nil => trivial
    | cons cell cells =>
      have hcell : "||".toList <+: (renderedCell (jira settings) true cell).output :=
        List.prefix_append _ _
      have hhead := hcell.trans (prefix_renderedRow true cell cells)
      exact (hhead.trans (List.prefix_append _ _)).trans (List.prefix_append _ _)
  | rule => exact ⟨"----\n\n", rfl, "\n\n", rfl⟩
  | paragraph | quote | code | html => exact ⟨_, rfl, trivial⟩

/-- A block that writes its own newline is at the start of a line in any case. -/
theorem atLineStart_append_lead (t : Text) (n : Node) :
    AtLineStart (t ++ lead n) ↔ lead n ≠ [] ∨ AtLineStart t := by
  have hlead : lead n = [] ∨ lead n = ['\n'] := by
    rw [lead.eq_def]
    split <;> simp
  rcases hlead with h | h <;> simp [h, AtLineStart]

/-! ## Documents -/

/-- The output of blocks, one block after the other. -/
theorem output_render (settings : Settings) (verbose : Bool) (ns : List Node) :
    (render (jira settings) verbose (Node.eventsAll ns)).output =
      (Node.renderedAll (jira settings) ns).output :=
  (render_eventsAll (jira settings) verbose ns).1

/-- **A block is not always at the start of a line.** A heading that follows a block quote is on
    the line that closes the quote. -/
theorem heading_after_quote :
    let out (ns : List Node) := (render (jira .default) false (Node.eventsAll ns)).output
    let quote : Node := .within .quote [.within .paragraph [.inline (.text "q")]]
    let heading : Node := .within (.heading 1) [.inline (.text "T")]
    (quote.IsBlock ∧ heading.IsBlock) ∧
      out [quote, heading] = out [quote] ++ out [heading] ∧
      out [heading] = "h1. T\n\n".toList ∧ ¬ AtLineStart (out [quote]) := by
  intro out quote heading
  have hout : ∀ ns, out ns = (Node.renderedAll (jira .default) ns).output :=
    output_render .default false
  have hquote : quote.IsBlock := .quote _
  have hheading : heading.IsBlock := .heading _ _
  refine ⟨⟨hquote, hheading⟩, ?_, ?_, ?_⟩
  · rw [hout, hout, hout, ← Written.output_append, ← Node.renderedAll_append]
    rfl
  · rw [hout]
    rfl
  · have hblocks : ∀ n ∈ [quote], n.IsBlock := by simp [hquote]
    rw [hout, atLineStart_blocks hblocks]
    decide

/-- **Blocks start at the start of a line, unless they follow a block quote.** In the output of
    blocks with anything in them, each comes after the output of those before it. That ends a
    line exactly if the last of them is not a block quote; a block that writes a newline first,
    a rule or a list, is at the start of a line in any case. What begins there is the markup of
    the block. -/
theorem blocks_start_lines (settings : Settings) (verbose : Bool) {before after : List Node}
    {n : Node} (h : ∀ n' ∈ before ++ n :: after, n'.IsBlock) :
    let out (ns : List Node) := (render (jira settings) verbose (Node.eventsAll ns)).output
    ∃ t, out (before ++ n :: after) = out before ++ (lead n ++ t) ++ out after ∧
      out [n] = lead n ++ t ∧ Opened n t ∧
      (AtLineStart (out before) ↔ endsInQuote before = false) ∧
      (AtLineStart (out before ++ lead n) ↔ lead n ≠ [] ∨ endsInQuote before = false) := by
  intro out
  have hout : ∀ ns, out ns = (Node.renderedAll (jira settings) ns).output :=
    output_render settings verbose
  rw [List.forall_mem_append, List.forall_mem_cons] at h
  obtain ⟨hbefore, hn, -⟩ := h
  obtain ⟨t, ht, hopened⟩ := exists_opened_block settings hn
  have hstart : AtLineStart (out before) ↔ endsInQuote before = false := by
    rw [hout]
    exact atLineStart_blocks hbefore
  refine ⟨t, ?_, ?_, hopened, hstart, ?_⟩
  · rw [hout, hout, hout, Node.renderedAll_append, Node.renderedAll, ← ht, Written.output_append,
      Written.output_append, List.append_assoc]
  · rw [hout, Node.renderedAll, Node.renderedAll, Written.append_nothing, ht]
  · rw [atLineStart_append_lead, hstart]

/-- A heading between a block quote and a rule, with a block of each other kind in front. -/
theorem blocks_start_lines_heading :
    let before : List Node := [.within .paragraph [.inline (.text "p")],
      .within (.list none) [.within .item [.inline (.text "a")]],
      .code (.fenced "sql") ["x\n"], .html [.raw "<hr>\n"],
      .table [.none] [[.text "A"]] [[[.text "1"]]], .within .quote [.inline (.text "q")]]
    let heading : Node := .within (.heading 2) [.inline (.text "T")]
    let out (ns : List Node) := (render (jira .default) false (Node.eventsAll ns)).output
    (∀ n ∈ before ++ heading :: [.rule], n.IsBlock) ∧
      ∃ t, out (before ++ heading :: [.rule]) = out before ++ (lead heading ++ t) ++ out [.rule] ∧
        out [heading] = lead heading ++ t ∧ Opened heading t ∧
        (AtLineStart (out before) ↔ endsInQuote before = false) ∧
        (AtLineStart (out before ++ lead heading) ↔
          lead heading ≠ [] ∨ endsInQuote before = false) := by
  intro before heading out
  have h : ∀ n ∈ before ++ heading :: [.rule], n.IsBlock := by
    simp only [before, List.cons_append, List.nil_append, List.forall_mem_cons]
    exact ⟨.paragraph _, .list _ _, .code _ _, .html rfl, .table _ _ _, .quote _, .heading _ _,
      .rule, by simp⟩
  exact ⟨h, blocks_start_lines .default false h⟩

end Wiki

end JiraMarkup
