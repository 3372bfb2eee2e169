/-
  Tables of plain text, and how their cells are read back from what they are rendered as.

  * `PlainTable` are tables whose cells hold nothing but text; `PlainTable.node` is the tree of
    one, `PlainTable.headTexts` and `PlainTable.rowTexts` are the texts in its cells, and
    `PlainTable.ofNode?` finds the table that a tree is;
  * `writtenTable` is what a table is rendered as, with the texts of its cells behind bars;
  * `ReadsBack`: the lines of a text, cut at the bars, give the cells. `ReadsBack.unique`: they
    give no others;
  * `readsBack_iff`: the cells of a table are read back exactly if they are `Legible`, for a bar
    or a newline in a cell looks like one that ends it (`cells_run_together`);
  * `table_cells_read_back` puts this together for tables among other trees.
-/
import JiraMarkup.Proofs.Text.Cutting
import JiraMarkup.Proofs.Wiki.BlockStarts

namespace JiraMarkup

open Markdown (Block Inline Node renderedCell renderedRow)

/-! ## Tables of plain text -/

namespace Markdown

/-- A table of plain text, each cell in the pieces that it was read in. -/
structure PlainTable where
  alignments : List Alignment
  head : List (List Text)
  rows : List (List (List Text))
  deriving DecidableEq

/-- The text of a piece that is nothing else. -/
def Inline.text? : Inline → Option Text
  | .text t => some t
  | _ => none

theorem Inline.eq_of_text? {i : Inline} {t : Text} (h : i.text? = some t) : i = .text t := by
  cases i with
  | text => rw [Option.some.inj h]
  | _ => cases h

namespace PlainTable

/-- The tree of a table. -/
def node (a : PlainTable) : Node :=
  .table a.alignments (a.head.map (·.map .text)) (a.rows.map (·.map (·.map .text)))

/-- The texts in the cells of the head. -/
def headTexts (a : PlainTable) : List Text := a.head.map List.flatten

/-- The texts in the cells of the other rows. -/
def rowTexts (a : PlainTable) : List (List Text) := a.rows.map (·.map List.flatten)

/-- The table that a tree is, if it is one of plain text. -/
def ofNode? : Node → Option PlainTable
  | .table alignments head rows => do
    let cell (pieces : List Inline) : Option (List Text) := pieces.mapM Inline.text?
    let row (cells : List (List Inline)) : Option (List (List Text)) := cells.mapM cell
    return ⟨alignments, ← row head, ← rows.mapM row⟩
  | _ => none

theorem eq_map_of_mapM_eq_some {α β : Type} {f : α → Option β} {g : β → α}
    (hf : ∀ x y, f x = some y → x = g y) {xs : List α} {ys : List β}
    (h : xs.mapM f = some ys) : xs = ys.map g := by
  induction xs generalizing ys with
  | nil =>
    cases h
    rfl
  | cons x xs ih =>
    simp only [List.mapM_cons, Option.bind_eq_bind, Option.bind_eq_some_iff] at h
    obtain ⟨y, hy, zs, hzs, heq⟩ := h
    rw [← Option.some.inj heq, List.map_cons, ← hf x y hy, ← ih hzs]

/-- No other tree is the one of the table. -/
theorem eq_node_of_ofNode? {n : Node} {a : PlainTable} (h : ofNode? n = some a) : n = a.node := by
  cases n with
  | table alignments head rows =>
    simp only [ofNode?, Option.bind_eq_bind, Option.bind_eq_some_iff] at h
    obtain ⟨head', hhead, rows', hrows, heq⟩ := h
    have hcell (pieces : List Inline) (texts : List Text)
        (h : pieces.mapM Inline.text? = some texts) : pieces = texts.map .text :=
      eq_map_of_mapM_eq_some (fun _ _ => Inline.eq_of_text?) h
    have hrow (cells : List (List Inline)) (texts : List (List Text))
        (h : cells.mapM (List.mapM Inline.text?) = some texts) :
        cells = texts.map (·.map .text) :=
      eq_map_of_mapM_eq_some hcell h
    rw [← Option.some.inj heq, node, ← hrow _ _ hhead, ← eq_map_of_mapM_eq_some hrow hrows]
  | _ => cases h

theorem eq_of_map_ofNode? {ns : List Node} {a : PlainTable}
    (h : ns.map ofNode? = [some a]) : ns = [a.node] := by
  obtain ⟨n, rfl, hn⟩ := List.map_eq_singleton_iff.1 h
  rw [eq_node_of_ofNode? hn]

end PlainTable

end Markdown

namespace Wiki

open Markdown (PlainTable)
open Written (concat)

variable {settings : Settings}

/-! ## What they are rendered as -/

/-- What stands before a cell; `header` if it is in the head of its table. -/
def bar (header : Bool) : Text := if header then "||" else "|"

theorem bar_ne_nil (header : Bool) : bar header ≠ [] := by cases header <;> decide

theorem newline_notMem_bar (header : Bool) : '\n' ∉ bar header := by cases header <;> decide

/-- A row of a table. -/
def writtenRow (header : Bool) (cells : List Text) : Text := cells.flatMap (bar header ++ ·)

/-- The rows of a table, the head first. -/
def writtenRows (head : List Text) (rows : List (List Text)) : List Text :=
  writtenRow true head :: rows.map (writtenRow false)

/-- A table: its rows, each on a line, and an empty line. -/
def writtenTable (head : List Text) (rows : List (List Text)) : Text :=
  (writtenRows head rows).flatMap (· ++ ['\n']) ++ ['\n']

theorem output_row_jira (header : Bool) (cells : List (List Inline)) :
    (renderedRow (jira settings) header cells).output =
      writtenRow header (cells.map (Inline.output (jira settings))) ++ ['\n'] := by
  have hcells : (concat (cells.map (renderedCell (jira settings) header))).output =
      writtenRow header (cells.map (Inline.output (jira settings))) := by
    rw [Written.output_concat, List.flatMap_map, writtenRow, List.flatMap_map]
    cases header <;> rfl
  rw [← hcells]
  rfl

/-- **A table is rendered as its rows and an empty line**, whatever is in its cells. -/
theorem output_table_jira (alignments : List Markdown.Alignment) (head : List (List Inline))
    (rows : List (List (List Inline))) :
    ((Node.table alignments head rows).rendered (jira settings)).output =
      writtenTable (head.map (Inline.output (jira settings)))
        (rows.map (·.map (Inline.output (jira settings)))) := by
  have hrows : (concat (rows.map (renderedRow (jira settings) false))).output =
      ((rows.map (·.map (Inline.output (jira settings)))).map
        (writtenRow false)).flatMap (· ++ ['\n']) := by
    rw [Written.output_concat, List.flatMap_map, List.flatMap_map, List.flatMap_map]
    simp only [output_row_jira]
  have htable : ((Node.table alignments head rows).rendered (jira settings)).output =
      (renderedRow (jira settings) true head).output ++
        (concat (rows.map (renderedRow (jira settings) false))).output ++ ['\n'] := rfl
  rw [htable, output_row_jira, hrows]
  rfl

/-- The output of plain text is the text. -/
theorem output_plain_jira (pieces : List Text) :
    Inline.output (jira settings) (pieces.map .text) = pieces.flatten := by
  induction pieces with
  | nil => rfl
  | cons p ps ih =>
    rw [Inline.output, List.map_cons, Inline.renderedAll, Written.output_append, ← Inline.output,
      ih]
    rfl

theorem output_plainTable (a : PlainTable) :
    (a.node.rendered (jira settings)).output = writtenTable a.headTexts a.rowTexts := by
  rw [PlainTable.node, output_table_jira]
  simp [PlainTable.headTexts, PlainTable.rowTexts, Function.comp_def, output_plain_jira]

/-! ## Reading cells back -/

/-- A text is made of a line for the head, one for each of the rows, and an empty line; and cut at
    its bars, each line has nothing before the first of them and the cells of its row behind. -/
def ReadsBack (t : Text) (head : List Text) (rows : List (List Text)) : Prop :=
  ∃ first others, Text.lines t = first :: (others ++ [[], []]) ∧
    Text.cut "||" first = [] :: head ∧ others.map (Text.cut "|") = rows.map ([] :: ·)

/-- **No two tables are read back from the same text.** -/
theorem ReadsBack.unique {t : Text} {head head' : List Text} {rows rows' : List (List Text)}
    (h : ReadsBack t head rows) (h' : ReadsBack t head' rows') : head = head' ∧ rows = rows' := by
  obtain ⟨first, others, hlines, hfirst, hothers⟩ := h
  obtain ⟨first', others', hlines', hfirst', hothers'⟩ := h'
  rw [hlines, List.cons.injEq, List.append_left_inj] at hlines'
  obtain ⟨rfl, rfl⟩ := hlines'
  rw [hfirst, List.cons.injEq] at hfirst'
  rw [hothers] at hothers'
  exact ⟨hfirst'.2, List.map_injective_iff.2 (List.cons_injective) hothers'⟩

/-- What the cells of a table must be to be told apart once they are written. In the head, where a
    bar is two characters, one of them is no bar unless it comes right before one. -/
structure Legible (head : List Text) (rows : List (List Text)) : Prop where
  newline_notMem_head : ∀ c ∈ head, '\n' ∉ c
  newline_notMem_rows : ∀ row ∈ rows, ∀ c ∈ row, '\n' ∉ c
  bar_head : ∀ c ∈ head, ¬ "||".toList <:+: c
  end_head : ∀ c ∈ head.dropLast, c.getLast? ≠ some '|'
  bar_rows : ∀ row ∈ rows, ∀ c ∈ row, '|' ∉ c

instance (head : List Text) (rows : List (List Text)) : Decidable (Legible head rows) :=
  decidable_of_iff ((∀ c ∈ head, '\n' ∉ c) ∧ (∀ row ∈ rows, ∀ c ∈ row, '\n' ∉ c) ∧
      (∀ c ∈ head, ¬ "||".toList <:+: c) ∧ (∀ c ∈ head.dropLast, c.getLast? ≠ some '|') ∧
      ∀ row ∈ rows, ∀ c ∈ row, '|' ∉ c)
    ⟨fun h => ⟨h.1, h.2.1, h.2.2.1, h.2.2.2.1, h.2.2.2.2⟩,
      fun h => ⟨h.1, h.2, h.3, h.4, h.5⟩⟩

/-! ### Rows -/

theorem intercalate_bar (header : Bool) (c : Text) (cells : List Text) :
    (bar header).intercalate (c :: cells) = c ++ writtenRow header cells := by
  induction cells generalizing c with
  | nil => rw [List.intercalate_singleton, writtenRow, List.flatMap_nil, List.append_nil]
  | cons d cells ih =>
    rw [List.intercalate_cons_of_ne_nil (by simp), ih, writtenRow, writtenRow, List.flatMap_cons]
    simp

theorem apart_nil_cons (header : Bool) (cells : List Text) :
    Text.Apart (bar header) ([] :: cells) ↔ Text.Apart (bar header) cells := by
  rcases eq_or_ne cells [] with rfl | hne
  · cases header <;> decide
  · rw [Text.apart_cons hne, List.nil_append]
    exact and_iff_right (Text.not_infix_dropLast (bar_ne_nil header))

/-- **When the cells of a row are read back.** -/
theorem cut_bar_iff (header : Bool) {line : Text} {cells : List Text} :
    Text.cut (bar header) line = [] :: cells ↔
      writtenRow header cells = line ∧ Text.Apart (bar header) cells := by
  rw [Text.cut_eq_iff (bar_ne_nil header) (by simp), intercalate_bar, apart_nil_cons]
  rfl

theorem cut_writtenRow_iff (header : Bool) (cells : List Text) :
    Text.cut (bar header) (writtenRow header cells) = [] :: cells ↔
      Text.Apart (bar header) cells := by
  rw [cut_bar_iff, and_iff_right rfl]

theorem apart_rows {cells : List Text} :
    Text.Apart (bar false) cells ↔ ∀ c ∈ cells, '|' ∉ c := by
  have hbar : bar false = ['|'] := rfl
  simp only [Text.Apart, hbar, List.dropLast_singleton, List.append_nil, List.singleton_infix_iff]
  exact and_iff_left_of_imp fun h c hc => h c (List.mem_of_mem_dropLast hc)

theorem apart_head {cells : List Text} :
    Text.Apart (bar true) cells ↔
      (∀ c ∈ cells, ¬ "||".toList <:+: c) ∧ ∀ c ∈ cells.dropLast, c.getLast? ≠ some '|' := by
  have hword : ∀ c : Text, "||".toList <:+: c ++ ['|'] ↔
      c.getLast? = some '|' ∨ "||".toList <:+: c := fun c => by
    have hbars : "||".toList = ['|'] ++ ['|'] := rfl
    rw [List.infix_concat_iff, hbars, List.suffix_append_self_iff,
      List.singleton_suffix_iff_getLast?_eq_some]
  have hbar : bar true = "||".toList := rfl
  have hdropLast : "||".toList.dropLast = ['|'] := rfl
  simp only [Text.Apart, hbar, hdropLast, hword, not_or]
  refine and_congr_right fun h => forall₂_congr fun c hc => ?_
  exact and_iff_left (h c (List.mem_of_mem_dropLast hc))

theorem map_cut_bar_iff {lines : List Text} {rows : List (List Text)} :
    lines.map (Text.cut (bar false)) = rows.map ([] :: ·) ↔
      lines = rows.map (writtenRow false) ∧ ∀ row ∈ rows, Text.Apart (bar false) row := by
  induction rows generalizing lines with
  | nil => simp
  | cons row rows ih =>
    cases lines with
    | nil => simp
    | cons line lines =>
      rw [List.map_cons, List.map_cons, List.map_cons, List.cons.injEq, List.cons.injEq,
        cut_bar_iff, ih, List.forall_mem_cons, eq_comm (a := line)]
      tauto

/-! ### Tables -/

theorem newline_mem_writtenRow {header : Bool} {cells : List Text} :
    '\n' ∈ writtenRow header cells ↔ ∃ c ∈ cells, '\n' ∈ c := by
  simp [writtenRow, newline_notMem_bar]

theorem newline_notMem_writtenRows {head : List Text} {rows : List (List Text)} :
    (∀ line ∈ writtenRows head rows, '\n' ∉ line) ↔
      (∀ c ∈ head, '\n' ∉ c) ∧ ∀ row ∈ rows, ∀ c ∈ row, '\n' ∉ c := by
  simp [writtenRows, newline_mem_writtenRow]

theorem lines_writtenTable (head : List Text) (rows : List (List Text)) :
    Text.lines (writtenTable head rows) =
      Text.lines (Text.unlines (writtenRows head rows)) ++ [[], []] := by
  rw [writtenTable, List.flatMap_def, Text.flatten_map_newline (by simp [writtenRows]),
    Text.lines_append_newline, Text.lines_append_newline]
  simp [Text.lines]

theorem lines_writtenTable_eq_iff {head : List Text} {rows : List (List Text)} {ls : List Text} :
    Text.lines (writtenTable head rows) = ls ++ [[], []] ↔
      Text.lines (Text.unlines (writtenRows head rows)) = ls := by
  rw [lines_writtenTable, List.append_left_inj]

/-- The lines of a table are its rows if no newline gets into them. -/
theorem lines_unlines_writtenRows {head : List Text} {rows : List (List Text)} :
    Text.lines (Text.unlines (writtenRows head rows)) = writtenRows head rows ↔
      ∀ line ∈ writtenRows head rows, '\n' ∉ line := by
  constructor
  · intro h line hline
    rw [← h] at hline
    exact Text.newline_notMem_of_mem_lines hline
  · exact Text.lines_unlines (by simp [writtenRows])

/-- The cells are read back if no newline gets into the rows, and no bar. -/
theorem readsBack_iff_apart (head : List Text) (rows : List (List Text)) :
    ReadsBack (writtenTable head rows) head rows ↔
      (∀ line ∈ writtenRows head rows, '\n' ∉ line) ∧
        Text.Apart (bar true) head ∧ ∀ row ∈ rows, Text.Apart (bar false) row := by
  rw [← lines_unlines_writtenRows, ← lines_writtenTable_eq_iff]
  constructor
  · rintro ⟨first, others, hlines, hfirst, hothers⟩
    obtain ⟨rfl, hhead⟩ := (cut_bar_iff true).1 hfirst
    obtain ⟨rfl, hrows⟩ := map_cut_bar_iff.1 hothers
    exact ⟨hlines, hhead, hrows⟩
  · rintro ⟨hlines, hhead, hrows⟩
    exact ⟨writtenRow true head, rows.map (writtenRow false), hlines,
      (cut_bar_iff true).2 ⟨rfl, hhead⟩, map_cut_bar_iff.2 ⟨rfl, hrows⟩⟩

/-- **When the cells of a table are read back**: exactly if they are legible. -/
theorem readsBack_iff (head : List Text) (rows : List (List Text)) :
    ReadsBack (writtenTable head rows) head rows ↔ Legible head rows := by
  rw [readsBack_iff_apart, newline_notMem_writtenRows, apart_head]
  simp only [apart_rows]
  constructor
  · rintro ⟨⟨hhead, hrows⟩, ⟨hbar, hend⟩, hbars⟩
    exact ⟨hhead, hrows, hbar, hend, hbars⟩
  · intro h
    exact ⟨⟨h.newline_notMem_head, h.newline_notMem_rows⟩, ⟨h.bar_head, h.end_head⟩, h.bar_rows⟩

/-! ## Documents -/

theorem output_render_plainTable (settings : Settings) (verbose : Bool) (a : PlainTable) :
    (render (jira settings) verbose (Node.eventsAll [a.node])).output =
      writtenTable a.headTexts a.rowTexts := by
  rw [output_render, Node.renderedAll, Node.renderedAll, Written.append_nothing, output_plainTable]

/-- A text that is read as a table of plain text and nothing else. -/
theorem output_renderWiki_plainTable {t : Text} {a : PlainTable}
    (h : Block.nodesAll (Markdown.read t) = [a.node]) (settings : Settings) :
    (renderWiki t settings).output = writtenTable a.headTexts a.rowTexts := by
  rw [renderWiki, Markdown.readEvents, Markdown.events, ← Block.eventsAll_nodesAll, h,
    output_render_plainTable]

theorem readsBack_renderWiki_iff {t : Text} {a : PlainTable}
    (h : Block.nodesAll (Markdown.read t) = [a.node]) (settings : Settings) :
    ReadsBack (renderWiki t settings).output a.headTexts a.rowTexts ↔
      Legible a.headTexts a.rowTexts := by
  rw [output_renderWiki_plainTable h, readsBack_iff]

/-- **Cells can run together.** A bar that is escaped in its cell is rendered as it is, so that two
    tables with different cells are rendered as the same text, from which neither is read back. Nor
    is a table with a newline in a cell, as an entity writes it. -/
theorem cells_run_together :
    let table (x y : List Text) : PlainTable :=
      ⟨[.none, .none], [["A".toList], ["B".toList]], [[x, y]]⟩
    let one : Text := "A|B\n-|-\na\\|b|c"
    let other : Text := "A|B\n-|-\na|b\\|c"
    let third : Text := "A|B\n-|-\na&#10;b|c"
    let ofOne := table ["a|b"] ["c"]
    let ofOther := table ["a"] ["b|c"]
    let ofThird := table ["a", "\n", "b"] ["c"]
    (Block.nodesAll (Markdown.read one) = [ofOne.node] ∧
      Block.nodesAll (Markdown.read other) = [ofOther.node] ∧
      Block.nodesAll (Markdown.read third) = [ofThird.node]) ∧
    (ofOne.rowTexts ≠ ofOther.rowTexts ∧
      (renderWiki one .default).output = (renderWiki other .default).output) ∧
    ¬ ReadsBack (renderWiki one .default).output ofOne.headTexts ofOne.rowTexts ∧
    ¬ ReadsBack (renderWiki other .default).output ofOther.headTexts ofOther.rowTexts ∧
    ¬ ReadsBack (renderWiki third .default).output ofThird.headTexts ofThird.rowTexts := by
  intro table one other third ofOne ofOther ofThird
  have hone : Block.nodesAll (Markdown.read one) = [ofOne.node] :=
    PlainTable.eq_of_map_ofNode? (by decide +kernel)
  have hother : Block.nodesAll (Markdown.read other) = [ofOther.node] :=
    PlainTable.eq_of_map_ofNode? (by decide +kernel)
  have hthird : Block.nodesAll (Markdown.read third) = [ofThird.node] :=
    PlainTable.eq_of_map_ofNode? (by decide +kernel)
  refine ⟨⟨hone, hother, hthird⟩, ⟨by decide, ?_⟩, ?_, ?_, ?_⟩
  · rw [output_renderWiki_plainTable hone, output_renderWiki_plainTable hother]
    decide
  · rw [readsBack_renderWiki_iff hone]
    decide
  · rw [readsBack_renderWiki_iff hother]
    decide
  · rw [readsBack_renderWiki_iff hthird]
    decide

/-- **What a table of plain text is rendered as**, whatever is around it: its rows, one on each
    line, with a bar before each cell and the texts of the cells as they are, and an empty line.
    These are its lines exactly if no cell holds a newline. The head is cut into its cells exactly
    if none of them holds a bar and none but the last ends in half of one, and any other row
    exactly if no cell in it holds a bar. So the cells are read back from the text exactly if they
    are legible, and two tables with legible cells are rendered as the same text only if their
    cells are the same. -/
theorem table_cells_read_back (settings : Settings) (verbose : Bool) (before after : List Node)
    (a : PlainTable) :
    let out (ns : List Node) := (render (jira settings) verbose (Node.eventsAll ns)).output
    let head := a.headTexts
    let rows := a.rowTexts
    (out (before ++ a.node :: after) = out before ++ out [a.node] ++ out after ∧
      out [a.node] = writtenTable head rows) ∧
    (Text.lines (out [a.node]) = writtenRows head rows ++ [[], []] ↔
      (∀ c ∈ head, '\n' ∉ c) ∧ ∀ row ∈ rows, ∀ c ∈ row, '\n' ∉ c) ∧
    (Text.cut "||" (writtenRow true head) = [] :: head ↔
      (∀ c ∈ head, ¬ "||".toList <:+: c) ∧ ∀ c ∈ head.dropLast, c.getLast? ≠ some '|') ∧
    (∀ row ∈ rows, Text.cut "|" (writtenRow false row) = [] :: row ↔ ∀ c ∈ row, '|' ∉ c) ∧
    (ReadsBack (out [a.node]) head rows ↔ Legible head rows) ∧
    ∀ b : PlainTable, Legible head rows → Legible b.headTexts b.rowTexts →
      out [a.node] = out [b.node] → head = b.headTexts ∧ rows = b.rowTexts := by
  intro out head rows
  have hout : ∀ b : PlainTable, out [b.node] = writtenTable b.headTexts b.rowTexts :=
    output_render_plainTable settings verbose
  refine ⟨⟨?_, hout a⟩, ?_, ?_, fun row _ => ?_, ?_, fun b ha hb heq => ?_⟩
  · have hrender : ∀ ns, out ns = (Node.renderedAll (jira settings) ns).output :=
      output_render settings verbose
    rw [hrender, hrender, hrender, hrender, Node.renderedAll_append, Node.renderedAll,
      Node.renderedAll, Node.renderedAll, Written.append_nothing, Written.output_append,
      Written.output_append, List.append_assoc]
  · rw [hout, lines_writtenTable_eq_iff, lines_unlines_writtenRows, newline_notMem_writtenRows]
  · exact (cut_writtenRow_iff true head).trans apart_head
  · exact (cut_writtenRow_iff false row).trans apart_rows
  · rw [hout]
    exact readsBack_iff head rows
  · rw [hout, hout] at heq
    have hread := (readsBack_iff head rows).2 ha
    rw [heq] at hread
    exact hread.unique ((readsBack_iff b.headTexts b.rowTexts).2 hb)

/-- Single bars in the head, one of them at its end, and an empty cell. -/
theorem table_cells_read_back_barred :
    let a : PlainTable := ⟨[.left, .none], [["a".toList, "|b".toList], ["|c|".toList]],
      [[["1 2".toList], []]]⟩
    let out (ns : List Node) := (render (jira .default) false (Node.eventsAll ns)).output
    Legible a.headTexts a.rowTexts ∧ ReadsBack (out [a.node]) a.headTexts a.rowTexts := by
  intro a out
  have h : Legible a.headTexts a.rowTexts := by decide
  exact ⟨h, (table_cells_read_back .default false [] [] a).2.2.2.2.1.2 h⟩

end Wiki

end JiraMarkup
