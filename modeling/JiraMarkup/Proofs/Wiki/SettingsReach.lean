/-
  How far the settings reach: conversions of one text under different settings have the same
  lines, except that the headers of code blocks may differ.

  * `SameBut` are pairs of lines that are equal or open the same code block, and `Agree` are
    renderings whose lines are such pairs; `Agree.append` and `Agree.list` put them together;
  * `Inline.rendered_codeBlock`: no running text depends on how code blocks are written;
  * `agree_ofBlocks` follows the recursion on documents, `forall₂_repairLines` the repairs;
  * `lines_convert_settings` says so for the conversion of a text.
-/
import JiraMarkup.Proofs.Wiki.CodeRecognition
import JiraMarkup.Proofs.Wiki.HeaderLines

namespace JiraMarkup

/-! ## Text without code blocks -/

namespace Markdown

open Wiki (Markup)

variable (m : Markup) (f : Text → Option Text → Text)

mutual

/-- No running text depends on how code blocks are written. -/
theorem Inline.rendered_codeBlock : ∀ i : Inline,
    i.rendered { m with codeBlock := f } = i.rendered m
  | .text _ => rfl
  | .code _ => rfl
  | .html _ => rfl
  | .softBreak => rfl
  | .hardBreak => rfl
  | .emphasis inner => by rw [rendered, rendered, renderedAll_codeBlock inner]; rfl
  | .strong inner => by rw [rendered, rendered, renderedAll_codeBlock inner]; rfl
  | .strikethrough inner => by rw [rendered, rendered, renderedAll_codeBlock inner]; rfl
  | .link _ _ _ inner => by rw [rendered, rendered, renderedAll_codeBlock inner]; rfl
  | .image _ _ inner => by rw [rendered, rendered, renderedAll_codeBlock inner]; rfl
  | .taskMarker _ => rfl
  | .plainSpan inner => by rw [rendered, rendered, renderedAll_codeBlock inner]

theorem Inline.renderedAll_codeBlock : ∀ is : List Inline,
    renderedAll { m with codeBlock := f } is = renderedAll m is
  | [] => rfl
  | i :: is => by
    rw [renderedAll, renderedAll, rendered_codeBlock i, renderedAll_codeBlock is]

end

theorem renderedRow_codeBlock (header : Bool) (cells : List (List Inline)) :
    renderedRow { m with codeBlock := f } header cells = renderedRow m header cells := by
  have hcell : renderedCell { m with codeBlock := f } header = renderedCell m header := by
    funext content
    rw [renderedCell, renderedCell, Inline.renderedAll_codeBlock]
    rfl
  rw [renderedRow, renderedRow, hcell]
  rfl

theorem HtmlPiece.rendered_codeBlock (p : HtmlPiece) :
    p.rendered { m with codeBlock := f } = p.rendered m := by
  cases p <;> rfl

end Markdown

namespace Wiki

open Markdown (Inline HtmlPiece Block renderedRow_codeBlock)

/-! ## Pairs of lines -/

/-- Two lines that are equal or, where there is code, open the same code block. -/
def SameBut (coded : Prop) (l l' : Text) : Prop := l = l' ∨ coded ∧ SameHeader l l'

namespace SameBut

variable {coded : Prop} {l l' : Text}

theorem refl (l : Text) : SameBut coded l l := .inl rfl

/-- What leaves a pair of headers one leaves a pair of lines one. -/
theorem map {f : Text → Text} (hf : ∀ {l l'}, SameHeader l l' → SameHeader (f l) (f l'))
    (h : SameBut coded l l') : SameBut coded (f l) (f l') := by
  rcases h with rfl | ⟨hcoded, h⟩
  · exact refl _
  · exact .inr ⟨hcoded, hf h⟩

theorem eq_nil_iff (h : SameBut coded l l') : l = [] ↔ l' = [] := by
  rcases h with rfl | ⟨-, h⟩
  · rfl
  · exact iff_of_false h.ne_nil.1 h.ne_nil.2

theorem openAfter_eq (h : SameBut coded l l') (inCode : Bool) :
    openAfter inCode l = openAfter inCode l' := by
  rcases h with rfl | ⟨-, h⟩
  · rfl
  · exact h.openAfter_eq inCode

end SameBut

/-! ## Renderings that agree -/

/-- Marked lines whose texts are pairs. -/
abbrev SameLines (coded : Prop) : List MarkedLine → List MarkedLine → Prop :=
  List.Forall₂ fun l l' => SameBut coded l.2 l'.2

namespace SameLines

variable {coded : Prop} {ls ls' : List MarkedLine}

theorem refl (ls : List MarkedLine) : SameLines coded ls ls :=
  List.forall₂_same.2 fun _ _ => .refl _

theorem eq_nil_iff (h : SameLines coded ls ls') : ls = [] ↔ ls' = [] := by
  rw [← List.length_eq_zero_iff, ← List.length_eq_zero_iff, h.length_eq]

theorem trimFront (h : SameLines coded ls ls') :
    SameLines coded (Text.trimFront ls) (Text.trimFront ls') := by
  induction h with
  | nil => exact .nil
  | @cons l l' ls ls' hl hls ih =>
    have hfront := hl.map SameHeader.dropWhile
    rw [Text.trimFront, Text.trimFront]
    by_cases hnil : l.2.dropWhile isWhite = []
    · rw [if_pos hnil, if_pos (hfront.eq_nil_iff.1 hnil)]
      exact ih
    · rw [if_neg hnil, if_neg (hfront.eq_nil_iff.not.1 hnil)]
      exact .cons hfront hls

theorem trimBack (h : SameLines coded ls ls') :
    SameLines coded (Text.trimBack ls) (Text.trimBack ls') := by
  induction h with
  | nil => exact .nil
  | @cons l l' ls ls' hl hls ih =>
    have hback := hl.map SameHeader.trimEnd
    rw [Text.trimBack, Text.trimBack]
    by_cases hrest : Text.trimBack ls = []
    · rw [if_pos hrest, if_pos (ih.eq_nil_iff.1 hrest)]
      by_cases hnil : Text.trimEndWith isWhite l.2 = []
      · rw [if_pos hnil, if_pos (hback.eq_nil_iff.1 hnil)]
        exact .nil
      · rw [if_neg hnil, if_neg (hback.eq_nil_iff.not.1 hnil)]
        exact .cons hback .nil
    · rw [if_neg hrest, if_neg (ih.eq_nil_iff.not.1 hrest)]
      exact .cons hl ih

theorem filter (h : SameLines coded ls ls') :
    SameLines coded (ls.filter fun l => !l.2.isEmpty) (ls'.filter fun l => !l.2.isEmpty) := by
  induction h with
  | nil => exact .nil
  | @cons l l' ls ls' hl _ ih =>
    have hempty : l.2.isEmpty = l'.2.isEmpty := by
      rw [Bool.eq_iff_iff, List.isEmpty_iff, List.isEmpty_iff, hl.eq_nil_iff]
    rw [List.filter_cons, List.filter_cons, hempty]
    split
    · exact .cons hl ih
    · exact ih

end SameLines

/-- Two renderings whose lines are pairs. They end with the same line, since no code block ends
    with its header. -/
structure Agree (coded : Prop) (a b : Marked) : Prop where
  ended : SameLines coded a.ended b.ended
  rest : a.rest = b.rest

namespace Agree

variable {coded : Prop} {a a' b b' : Marked}

theorem refl (a : Marked) : Agree coded a a := ⟨.refl _, rfl⟩

theorem lines (h : Agree coded a b) : SameLines coded a.lines b.lines := by
  rw [Marked.lines, Marked.lines, h.rest]
  exact List.rel_append h.ended (SameLines.refl _)

theorem append (h : Agree coded a a') (h' : Agree coded b b') :
    Agree coded (a ++ b) (a' ++ b') := by
  obtain ⟨ls, r⟩ := b
  obtain ⟨ls', r'⟩ := b'
  obtain ⟨hls, hr⟩ := h'
  cases hls with
  | nil =>
    refine ⟨h.ended, ?_⟩
    show a.rest ++ r = a'.rest ++ r'
    rw [h.rest, show r = r' from hr]
  | cons hl hls =>
    refine ⟨List.rel_append h.ended (.cons ?_ hls), hr⟩
    rw [h.rest]
    exact hl.map fun hl => hl.append_left a'.rest

theorem list (h : Agree coded a b) (ordered : Bool) :
    Agree coded (a.list ordered) (b.list ordered) := by
  have hlines : SameLines coded (a.listLines ordered) (b.listLines ordered) := by
    rw [Marked.listLines, Marked.listLines, SameLines, List.forall₂_map_left_iff,
      List.forall₂_map_right_iff]
    refine h.lines.trimFront.trimBack.filter.imp fun l l' hl => ?_
    exact hl.map (f := fun l => mergeBullets (marker ordered :: ' ' :: l)) fun hl =>
      (hl.append_left [marker ordered, ' ']).mergeBullets
  refine ⟨?_, rfl⟩
  show SameLines coded (_ :: _ ++ _) (_ :: _ ++ _)
  refine .cons (.refl []) (List.rel_append ?_ (SameLines.refl _))
  by_cases hnil : a.listLines ordered = []
  · rw [if_pos hnil, if_pos (hlines.eq_nil_iff.1 hnil)]
    exact SameLines.refl _
  · rw [if_neg hnil, if_neg (hlines.eq_nil_iff.not.1 hnil)]
    exact hlines

theorem code {settings settings' : Settings} (h : PlainTexts settings)
    (h' : PlainTexts settings') (hcoded : coded) (c : Text) (lang : Option Text) :
    Agree coded (Marked.code settings c lang) (Marked.code settings' c lang) := by
  refine ⟨.cons (.inr ⟨hcoded, ?_⟩) (SameLines.refl _), rfl⟩
  exact sameHeader_codeHeader h h' c lang

end Agree

/-! ## Documents -/

/-- The markups of two settings differ in how they write code blocks only. -/
theorem jira_eq (settings settings' : Settings) :
    jira settings = { jira settings' with codeBlock := codeBlock settings } := rfl

theorem inline_output_jira (settings settings' : Settings) (is : List Inline) :
    Inline.output (jira settings) is = Inline.output (jira settings') is := by
  rw [jira_eq settings settings', Inline.output, Inline.renderedAll_codeBlock, Inline.output]

theorem html_output_jira (settings settings' : Settings) (pieces : List HtmlPiece) :
    Block.output (jira settings) (.html pieces) = Block.output (jira settings') (.html pieces) := by
  rw [Block.output_html, Block.output_html, jira_eq settings settings']
  simp only [HtmlPiece.rendered_codeBlock]

theorem table_output_jira (settings settings' : Settings) (alignments : List Markdown.Alignment)
    (head : List (List Inline)) (rows : List (List (List Inline))) :
    Block.output (jira settings) (.table alignments head rows) =
      Block.output (jira settings') (.table alignments head rows) := by
  rw [Block.output_table, Block.output_table, jira_eq settings settings']
  simp only [renderedRow_codeBlock]

mutual

theorem agree_ofBlock {settings settings' : Settings} (h : PlainTexts settings)
    (h' : PlainTexts settings') {coded : Prop} :
    ∀ b : Block (List Inline), (codeBodies b ≠ [] → coded) →
    Agree coded (Marked.ofBlock settings b) (Marked.ofBlock settings' b)
  | .code kind pieces, hcoded => by
    rw [codeBodies] at hcoded
    rw [Marked.ofBlock, Marked.ofBlock]
    exact .code h h' (hcoded (List.cons_ne_nil _ _)) _ _
  | .quote inner, hcoded => by
    rw [codeBodies] at hcoded
    have hinner := agree_ofBlocks h h' inner hcoded
    rw [Marked.ofBlock, Marked.ofBlock]
    exact ((Agree.refl _).append hinner).append (.refl _)
  | .list start items, hcoded => by
    rw [codeBodies] at hcoded
    have hitems := agree_ofItems h h' items hcoded
    rw [Marked.ofBlock, Marked.ofBlock]
    exact hitems.list _
  | .plainGroup inner, hcoded => by
    rw [codeBodies] at hcoded
    rw [Marked.ofBlock, Marked.ofBlock]
    exact agree_ofBlocks h h' inner hcoded
  | .paragraph content, _ => by
    rw [Marked.ofBlock, Marked.ofBlock, Block.output_paragraph, Block.output_paragraph,
      inline_output_jira settings settings']
    exact .refl _
  | .plain content, _ => by
    rw [Marked.ofBlock, Marked.ofBlock, Block.output_plain, Block.output_plain,
      inline_output_jira settings settings']
    exact .refl _
  | .heading level content, _ => by
    rw [Marked.ofBlock, Marked.ofBlock, Block.output_heading, Block.output_heading,
      inline_output_jira settings settings']
    exact .refl _
  | .html pieces, _ => by
    rw [Marked.ofBlock, Marked.ofBlock, html_output_jira settings settings']
    exact .refl _
  | .table alignments head rows, _ => by
    rw [Marked.ofBlock, Marked.ofBlock, table_output_jira settings settings']
    exact .refl _
  | .rule, _ => by
    rw [Marked.ofBlock, Marked.ofBlock, Block.output_rule, Block.output_rule]
    exact .refl _

/-- **The lines of a document agree under all settings**, and they are equal where there is no
    code. -/
theorem agree_ofBlocks {settings settings' : Settings} (h : PlainTexts settings)
    (h' : PlainTexts settings') {coded : Prop} :
    ∀ bs : List (Block (List Inline)), (codeBodiesAll bs ≠ [] → coded) →
    Agree coded (Marked.ofBlocks settings bs) (Marked.ofBlocks settings' bs)
  | [], _ => .refl _
  | b :: bs, hcoded => by
    rw [codeBodiesAll, Ne, List.append_eq_nil_iff, not_and_or, or_imp] at hcoded
    have hb := agree_ofBlock h h' b hcoded.1
    rw [Marked.ofBlocks, Marked.ofBlocks]
    exact hb.append (agree_ofBlocks h h' bs hcoded.2)

theorem agree_ofItems {settings settings' : Settings} (h : PlainTexts settings)
    (h' : PlainTexts settings') {coded : Prop} :
    ∀ is : List (List (Block (List Inline))), (codeBodiesItems is ≠ [] → coded) →
    Agree coded (Marked.ofItems settings is) (Marked.ofItems settings' is)
  | [], _ => .refl _
  | i :: is, hcoded => by
    rw [codeBodiesItems, Ne, List.append_eq_nil_iff, not_and_or, or_imp] at hcoded
    have hi := agree_ofBlocks h h' i hcoded.1
    rw [Marked.ofItems, Marked.ofItems]
    exact (hi.append (.refl _)).append (agree_ofItems h h' is hcoded.2)

end

/-! ## Repairs -/

/-- The repairs of pairs of lines are pairs, since both passes have the same flags in both
    runs. -/
theorem forall₂_repairLines {coded : Prop} {ls ls' : List Text}
    (h : List.Forall₂ (SameBut coded) ls ls') (inClear inEscape : Bool) :
    List.Forall₂ (SameBut coded) (repairLines inClear inEscape ls)
      (repairLines inClear inEscape ls') := by
  induction h generalizing inClear inEscape with
  | nil => exact .nil
  | cons hl _ ih =>
    have hclear := hl.map fun hl => hl.clearLine inClear
    have hescape := hclear.map fun hl => hl.escapeLine inEscape
    rw [repairLines_cons, repairLines_cons, ← hl.openAfter_eq, ← hclear.openAfter_eq]
    exact .cons hescape (ih _ _)

/-! ## Conversions -/

/-- **The settings reach the headers of code blocks only.** Under two settings a text is
    converted to as many lines, which are equal except where both are headers. -/
theorem lines_convert_settings (t : Text) {settings settings' : Settings}
    (h : PlainTexts settings) (h' : PlainTexts settings') :
    List.Forall₂ (fun l l' => l = l' ∨ (headerWord <:+: l ∧ headerWord <:+: l'))
        (Text.lines (convert t settings).output) (Text.lines (convert t settings').output) ∧
      (codeBodiesAll (Markdown.read (Text.normalizeLineEndings t)) = [] →
        (convert t settings).output = (convert t settings').output) := by
  have hsame : List.Forall₂
      (SameBut (codeBodiesAll (Markdown.read (Text.normalizeLineEndings t)) ≠ []))
      (Text.lines (convert t settings).output) (Text.lines (convert t settings').output) := by
    rw [output_convert, output_convert, lines_repair, lines_repair,
      lines_renderWiki _ h.newline_notMem_theme h.newline_notMem_borderStyle,
      lines_renderWiki _ h'.newline_notMem_theme h'.newline_notMem_borderStyle]
    -- Both runs begin with the same flags, and the lines that they begin with agree.
    refine forall₂_repairLines ?_ false false
    rw [List.forall₂_map_left_iff, List.forall₂_map_right_iff]
    exact (agree_ofBlocks h h' _ id).lines
  constructor
  · refine hsame.imp fun l l' hl => ?_
    rcases hl with hl | ⟨-, hl⟩
    · exact .inl hl
    · exact .inr hl.infix_headerWord
  · intro hnone
    have hlines : Text.lines (convert t settings).output =
        Text.lines (convert t settings').output := by
      refine List.forall₂_eq_eq_eq ▸ hsame.imp fun l l' hl => ?_
      rcases hl with hl | ⟨hsome, -⟩
      · exact hl
      · exact absurd hnone hsome
    rw [← Text.unlines_lines (convert t settings).output, hlines, Text.unlines_lines]

/-- A code block in a list whose header has another theme and another limit of lines. -/
theorem lines_convert_settings_listed :
    let t := "- a\n\n  ```sql\n  x\n  ```\n".toList
    let settings' : Settings := { Settings.default with
      theme := "Eclipse", collapseThreshold := 0, verbose := true }
    PlainTexts Settings.default ∧ PlainTexts settings' ∧
      List.Forall₂ (fun l l' => l = l' ∨ (headerWord <:+: l ∧ headerWord <:+: l'))
        (Text.lines (convert t .default).output) (Text.lines (convert t settings').output) ∧
      (convert t .default).output ≠ (convert t settings').output := by
  intro t settings'
  have h : PlainTexts Settings.default := by constructor <;> decide
  have h' : PlainTexts settings' := by constructor <;> decide
  refine ⟨h, h', (lines_convert_settings t h h').1, ?_⟩
  decide +kernel

end Wiki

end JiraMarkup
