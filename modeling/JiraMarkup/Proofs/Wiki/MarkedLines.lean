/-
  The lines of what a document is rendered as, each with what it belongs to.

  * `Marked` are renderings that are given by such lines; `Marked.append`, `Marked.code` and
    `Marked.list` put them together as the texts are;
  * `Marked.ofBlock` follows the recursion on documents, and `Marked.renders_ofBlocks` says
    that its lines are those of the output.
-/
import JiraMarkup.Proofs.Text.Trimming
import JiraMarkup.Proofs.Wiki.CodeHeader
import JiraMarkup.Proofs.Wiki.ListLines
import JiraMarkup.Proofs.Wiki.Written

namespace JiraMarkup.Wiki

open Markdown (Inline Block)

/-! ## Marked lines -/

/-- What a line of a rendering belongs to. -/
inductive LineKind where
  /-- No code block. -/
  | plain
  /-- A code block that it opens. -/
  | header
  /-- The code in a code block. -/
  | body
  /-- A code block that it closes. -/
  | closer
  deriving DecidableEq, Repr

/-- A line and what it belongs to. -/
abbrev MarkedLine := LineKind × Text

/-- A rendering that is given by its lines. The last of them belongs to no code block. -/
structure Marked where
  /-- The lines that a newline ends. -/
  ended : List MarkedLine
  /-- The last line. -/
  rest : Text

namespace Marked

/-- All lines. -/
def lines (a : Marked) : List MarkedLine := a.ended ++ [(.plain, a.rest)]

/-- The text of all lines. -/
def text (a : Marked) : Text := Text.unlines (a.lines.map Prod.snd)

/-- Text that belongs to no code block. -/
def ofText (t : Text) : Marked :=
  ⟨(Text.lines t).dropLast.map (.plain, ·), (Text.lines t).getLast (Text.lines_ne_nil t)⟩

/-- One after the other. The last line of the first goes on with the first line of the second,
    which still belongs to what it belonged to. -/
def append (a b : Marked) : Marked :=
  match b.ended with
  | [] => ⟨a.ended, a.rest ++ b.rest⟩
  | (k, l) :: ls => ⟨a.ended ++ (k, a.rest ++ l) :: ls, b.rest⟩

instance : Append Marked := ⟨append⟩

/-- A code block. -/
def code (settings : Settings) (code : Text) (lang : Option Text) : Marked :=
  ⟨(.header, codeHeader settings code lang) ::
    ((Text.lines code).map (.body, ·) ++ [(.closer, closingWord), (.plain, [])]), []⟩

/-- The lines of a list with this body. -/
def listLines (body : Marked) (ordered : Bool) : List MarkedLine :=
  ((Text.trimBack (Text.trimFront body.lines)).filter fun l => !l.2.isEmpty).map fun l =>
    (l.1, mergeBullets (marker ordered :: ' ' :: l.2))

/-- A list with this body. -/
def list (body : Marked) (ordered : Bool) : Marked :=
  let ls := body.listLines ordered
  ⟨(.plain, []) :: (if ls = [] then [(.plain, [])] else ls) ++ [(.plain, [])], []⟩

/-! ## Their texts -/

/-- No line has a newline in it. -/
def OneLined (a : Marked) : Prop := ∀ l ∈ a.lines, '\n' ∉ l.2

theorem lines_ofText (t : Text) : (ofText t).lines = (Text.lines t).map (.plain, ·) := by
  conv_rhs => rw [← List.dropLast_append_getLast (Text.lines_ne_nil t)]
  rw [List.map_append]
  rfl

@[simp] theorem text_ofText (t : Text) : (ofText t).text = t := by
  rw [text, lines_ofText, List.map_map]
  change Text.unlines ((Text.lines t).map id) = t
  rw [List.map_id, Text.unlines_lines]

theorem oneLined_ofText (t : Text) : (ofText t).OneLined := by
  intro l hl
  rw [lines_ofText] at hl
  obtain ⟨l', hl', rfl⟩ := List.mem_map.1 hl
  exact Text.newline_notMem_of_mem_lines hl'

theorem lines_append (a b : Marked) :
    ∃ k l ls, b.lines = (k, l) :: ls ∧ (a ++ b).lines = a.ended ++ (k, a.rest ++ l) :: ls := by
  obtain ⟨_ | ⟨⟨k, l⟩, ls⟩, r⟩ := b
  · exact ⟨.plain, r, [], rfl, rfl⟩
  · exact ⟨k, l, ls ++ [(.plain, r)], rfl, List.append_assoc ..⟩

@[simp] theorem text_append (a b : Marked) : (a ++ b).text = a.text ++ b.text := by
  obtain ⟨k, l, ls, hb, hab⟩ := lines_append a b
  rw [text, text, text, hab, hb, lines, List.map_append, List.map_append, List.map_cons,
    List.map_cons, List.map_cons, List.map_nil, Text.unlines_concat_append]

theorem OneLined.append {a b : Marked} (ha : a.OneLined) (hb : b.OneLined) :
    (a ++ b).OneLined := by
  obtain ⟨k, l, ls, hbl, hab⟩ := lines_append a b
  rw [OneLined, hbl, List.forall_mem_cons] at hb
  rw [OneLined, lines, List.forall_mem_append, List.forall_mem_singleton] at ha
  rw [OneLined, hab, List.forall_mem_append, List.forall_mem_cons, List.mem_append, not_or]
  exact ⟨ha.1, ⟨ha.2, hb.1⟩, hb.2⟩

theorem text_code (settings : Settings) (c : Text) (lang : Option Text) :
    (code settings c lang).text = codeBlock settings c lang := by
  have htexts : (code settings c lang).lines.map Prod.snd =
      codeHeader settings c lang :: (Text.lines c ++ [closingWord, [], []]) := by
    simp [code, lines, Function.comp_def]
  rw [text, htexts, Text.unlines_cons (by simp),
    Text.unlines_append (Text.lines_ne_nil c) (by simp), Text.unlines_lines, codeBlock_eq]
  rfl

theorem oneLined_code {settings : Settings} {c : Text} {lang : Option Text}
    (h : '\n' ∉ codeHeader settings c lang) : (code settings c lang).OneLined := by
  intro l hl
  simp only [code, lines, List.mem_append, List.mem_cons, List.mem_map, List.not_mem_nil,
    or_false] at hl
  rcases hl with (rfl | ⟨l', hl', rfl⟩ | rfl | rfl) | rfl
  · exact h
  · exact Text.newline_notMem_of_mem_lines hl'
  all_goals decide

/-! ## Lists -/

theorem newline_notMem_listLines {body : Marked} (h : body.OneLined) (ordered : Bool) :
    ∀ l ∈ body.listLines ordered, '\n' ∉ l.2 := by
  intro l hl
  obtain ⟨l', hl', rfl⟩ := List.mem_map.1 hl
  have hnl := Text.newline_notMem_trimBack (Text.newline_notMem_trimFront h) l'
    (List.mem_of_mem_filter hl')
  exact newline_notMem_mergeBullets ordered hnl

/-- The lines of a list are those that the markup writes. -/
theorem texts_listLines {body : Marked} (h : body.OneLined) (ordered : Bool) :
    (body.listLines ordered).map Prod.snd = Wiki.listLines body.text ordered := by
  have hnl := Text.newline_notMem_trimBack (Text.newline_notMem_trimFront h)
  have hfilled : ∀ ls : List MarkedLine,
      (ls.filter fun l => !l.2.isEmpty).map Prod.snd = Text.filled (ls.map Prod.snd) := fun ls => by
    rw [Text.filled, List.filter_map]; rfl
  have htrim : (Text.lines (Text.trimWhite body.text)).filter (fun l => !l.isEmpty) =
      Text.filled ((Text.trimBack (Text.trimFront body.lines)).map Prod.snd) := by
    rw [text, Text.trimWhite_unlines]
    exact Text.filled_lines_unlines (List.forall_mem_map.2 hnl)
  rw [Wiki.listLines, htrim, ← hfilled, listLines, List.map_map, List.map_map]
  rfl

theorem text_list {body : Marked} (h : body.OneLined) (ordered : Bool) :
    (body.list ordered).text = Wiki.list body.text ordered := by
  have hstart : "\n".toList = ['\n'] := by decide
  have hend : "\n\n".toList = ['\n', '\n'] := by decide
  unfold Wiki.list
  rw [← texts_listLines h, hstart, hend]
  by_cases hls : body.listLines ordered = []
  · simp [list, text, lines, hls, Text.unlines]
  · have htexts : (body.list ordered).lines.map Prod.snd =
        [] :: ((body.listLines ordered).map Prod.snd ++ [[], []]) := by
      simp [list, lines, hls]
    rw [text, htexts, Text.unlines_cons (by simp),
      Text.unlines_append (by simpa using hls) (by simp)]
    simp [Text.unlines]

theorem OneLined.list {body : Marked} (h : body.OneLined) (ordered : Bool) :
    (body.list ordered).OneLined := by
  have hnl := newline_notMem_listLines h ordered
  rw [OneLined, lines, Marked.list, List.forall_mem_append, List.forall_mem_append,
    List.forall_mem_cons]
  refine ⟨⟨⟨by simp, ?_⟩, by simp⟩, by simp⟩
  split_ifs
  · decide
  · exact hnl

/-! ## Documents -/

mutual

/-- What a block is rendered as. Blocks that hold running text only have no code blocks. -/
def ofBlock (settings : Settings) : Block (List Inline) → Marked
  | .code kind pieces => code settings (dropNewline pieces.flatten) kind.tag?
  | .quote inner => ofText "\x7bquote\x7d" ++ ofBlocks settings inner ++ ofText "\x7bquote\x7d"
  | .list start items => (ofItems settings items).list start.isSome
  | .plainGroup inner => ofBlocks settings inner
  | .paragraph content => ofText (Block.output (jira settings) (.paragraph content))
  | .plain content => ofText (Block.output (jira settings) (.plain content))
  | .heading level content => ofText (Block.output (jira settings) (.heading level content))
  | .html pieces => ofText (Block.output (jira settings) (.html pieces))
  | .table alignments head rows =>
    ofText (Block.output (jira settings) (.table alignments head rows))
  | .rule => ofText (Block.output (jira settings) .rule)

/-- What the blocks of a list are rendered as. -/
def ofBlocks (settings : Settings) : List (Block (List Inline)) → Marked
  | [] => ofText []
  | b :: bs => ofBlock settings b ++ ofBlocks settings bs

/-- The body of a list with these items. -/
def ofItems (settings : Settings) : List (List (Block (List Inline))) → Marked
  | [] => ofText []
  | i :: is => ofBlocks settings i ++ ofText "\n" ++ ofItems settings is

end

/-- A marked rendering that stands for a text. -/
def Renders (a : Marked) (t : Text) : Prop := a.OneLined ∧ a.text = t

theorem renders_ofText (t : Text) : (ofText t).Renders t := ⟨oneLined_ofText t, text_ofText t⟩

theorem Renders.append {a b : Marked} {t u : Text} (ha : a.Renders t) (hb : b.Renders u) :
    (a ++ b).Renders (t ++ u) :=
  ⟨ha.1.append hb.1, by rw [text_append, ha.2, hb.2]⟩

mutual

theorem renders_ofBlock {settings : Settings} (htheme : '\n' ∉ settings.theme)
    (hborder : '\n' ∉ settings.borderStyle) : ∀ b : Block (List Inline),
    (ofBlock settings b).Renders (b.output (jira settings))
  | .code kind pieces => by
    rw [Block.output_code]
    exact ⟨oneLined_code (newline_notMem_codeHeader htheme hborder _ _), text_code ..⟩
  | .quote inner => by
    have hinner := renders_ofBlocks htheme hborder inner
    rw [Block.output_quote]
    exact ((renders_ofText _).append hinner).append (renders_ofText _)
  | .list start items => by
    obtain ⟨hlined, htext⟩ := renders_ofItems htheme hborder items
    rw [Block.output_list]
    exact ⟨hlined.list _, by rw [ofBlock, text_list hlined, htext]; rfl⟩
  | .plainGroup inner => by
    rw [Block.output_plainGroup]
    exact renders_ofBlocks htheme hborder inner
  | .paragraph _ => renders_ofText _
  | .plain _ => renders_ofText _
  | .heading _ _ => renders_ofText _
  | .html _ => renders_ofText _
  | .table _ _ _ => renders_ofText _
  | .rule => renders_ofText _

/-- **The marked lines of a document are the lines of its output.** -/
theorem renders_ofBlocks {settings : Settings} (htheme : '\n' ∉ settings.theme)
    (hborder : '\n' ∉ settings.borderStyle) : ∀ bs : List (Block (List Inline)),
    (ofBlocks settings bs).Renders (Block.outputAll (jira settings) bs)
  | [] => renders_ofText []
  | b :: bs => by
    have hb := renders_ofBlock htheme hborder b
    rw [Block.outputAll_cons]
    exact hb.append (renders_ofBlocks htheme hborder bs)

theorem renders_ofItems {settings : Settings} (htheme : '\n' ∉ settings.theme)
    (hborder : '\n' ∉ settings.borderStyle) : ∀ is : List (List (Block (List Inline))),
    (ofItems settings is).Renders
      (is.flatMap fun i => (jira settings).listItem (Block.outputAll (jira settings) i))
  | [] => renders_ofText []
  | i :: is => by
    have hi := renders_ofBlocks htheme hborder i
    rw [List.flatMap_cons]
    exact (hi.append (renders_ofText _)).append (renders_ofItems htheme hborder is)

end

end Marked

end JiraMarkup.Wiki
