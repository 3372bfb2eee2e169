/-
  Rendering a stream is structural recursion on the trees it flattens.

  * `Adds` relates the states before and after a part of a stream, whatever containers
    are open around it: what the part is rendered as has gone into the innermost one;
  * `Node.adds_events`: the stream of a tree adds what the tree is rendered as. It
    needs that no table is open; `Inline.adds_events` does not, for cells hold running text;
  * `render_eventsAll`: what comes of a whole stream, and `render_events` the same
    for a document.
-/
import JiraMarkup.Proofs.Wiki.Written

namespace JiraMarkup.Wiki

open Markdown (Inline HtmlPiece Wrapper Node Block Document Event Tag rowEvents renderedCell
  renderedRow renderedTable)
open Written (nothing concat copied single)

variable {m : Markup} {verbose : Bool}

/-! ## States with more written -/

namespace Rendering

/-- The state after `ps` has been put into the innermost container and the constructs `ns`
    have been written. -/
def add (m : Markup) (verbose : Bool) (ps : List Text) (ns : List Construct) (s : Rendering) :
    Rendering where
  containers := s.containers.modifyHead fun c => { c with pieces := ps.reverse ++ c.pieces }
  headOpen := s.headOpen
  calls := (ns.map fun n => ⟨n, n.write m⟩).reverse ++ s.calls
  log := if verbose then ns.reverse ++ s.log else s.log

variable {s : Rendering} {ps ps' : List Text} {ns ns' : List Construct}

@[simp] theorem insideCode_add : (s.add m verbose ps ns).insideCode = s.insideCode := by
  rcases s with ⟨_ | ⟨c, cs⟩, _, _, _⟩ <;> rfl

@[simp] theorem containers_add_eq_nil :
    (s.add m verbose ps ns).containers = [] ↔ s.containers = [] := by
  rcases s with ⟨_ | ⟨c, cs⟩, _, _, _⟩ <;> simp [add]

theorem add_nil : s.add m verbose [] [] = s := by
  rcases s with ⟨_ | ⟨c, cs⟩, _, _, _⟩ <;> simp [add]

theorem add_add :
    (s.add m verbose ps ns).add m verbose ps' ns' = s.add m verbose (ps ++ ps') (ns ++ ns') := by
  rcases s with ⟨_ | ⟨c, cs⟩, _, _, _⟩ <;> cases verbose <;> simp [add]

theorem write_eq_add (t : Text) : s.write t = s.add m verbose [t] [] := by
  rcases s with ⟨_ | ⟨c, cs⟩, _, _, _⟩ <;> simp [add, write]

theorem writeConstruct_eq_add (n : Construct) :
    s.writeConstruct m verbose n = s.add m verbose [n.write m] [n] := by
  rcases s with ⟨_ | ⟨c, cs⟩, _, _, _⟩ <;> cases verbose <;>
    simp [add, writeConstruct, note, write]

@[simp] theorem run_nil : s.run m verbose [] = s := rfl

@[simp] theorem run_cons (e : Event) (es : List Event) :
    s.run m verbose (e :: es) = (s.step m verbose e).run m verbose es := rfl

@[simp] theorem run_append (es es' : List Event) :
    s.run m verbose (es ++ es') = (s.run m verbose es).run m verbose es' :=
  List.foldl_append

/-! ## Entering and leaving -/

@[simp] theorem containers_enter (tag : Tag) : (s.enter tag).containers ≠ [] := by
  simp [enter]

theorem headOpen_enter {tag : Tag} (h : tag ≠ .tableHead) :
    (s.enter tag).headOpen = s.headOpen := by simp [enter, h]

/-- Leaving a container that becomes a construct writes that construct into the one
    around it. -/
theorem leave_add_enter (hs : s.containers ≠ []) {tag : Tag} (htag : tag ≠ .tableHead)
    {n : Construct} (h : construct? s.headOpen tag ps.flatten [] = some n) :
    ((s.enter tag).add m verbose ps ns).leave m verbose =
      s.add m verbose [n.write m] (ns ++ [n]) := by
  obtain ⟨containers, headOpen, calls, log⟩ := s
  obtain ⟨c, cs, rfl⟩ := List.exists_cons_of_ne_nil hs
  have hc : construct? headOpen tag ps.flatten [] = some n := h
  simp only [add, enter, leave, List.modifyHead_cons, finish, Container.ofTag, Container.contents,
    List.append_nil, List.reverse_reverse, htag, decide_false, Bool.or_false, hc, if_false]
  cases verbose <;> simp [writeConstruct, note, write]

/-- Leaving a container without markup copies its contents into the one around it. -/
theorem leave_add_enter_plain (hs : s.containers ≠ []) :
    ((s.enter .plain).add m verbose ps ns).leave m verbose =
      s.add m verbose [ps.flatten] ns := by
  obtain ⟨containers, headOpen, calls, log⟩ := s
  obtain ⟨c, cs, rfl⟩ := List.exists_cons_of_ne_nil hs
  simp [add, enter, leave, finish, Container.ofTag, Container.contents, construct?, write]

/-- The state within a table whose head row has been written as `head`. -/
def enterRows (tag : Tag) (head : Text) (s : Rendering) : Rendering :=
  { s with containers := ⟨some tag, [], head⟩ :: s.containers }

/-- Leaving the head row of a table keeps its output apart, and closes the head. -/
theorem leave_head {tag : Tag} (htag : tag ≠ .tableHead) (hs : s.headOpen = false) :
    (((s.enter tag).enter .tableHead).add m verbose ps ns).leave m verbose =
      (s.enterRows tag (m.tableRow ps.flatten)).add m verbose []
        (ns ++ [.tableRow ps.flatten]) := by
  obtain ⟨containers, headOpen, calls, log⟩ := s
  have hs : headOpen = false := hs
  cases verbose <;>
    simp [add, enter, leave, finish, Container.ofTag, Container.contents, construct?, writeHead,
      note, enterRows, Construct.write, htag, hs]

/-- Leaving a table writes its head row and its body rows into the container around it. -/
theorem leave_rows (hs : s.containers ≠ []) (alignments : List Markdown.Alignment) (head : Text) :
    ((s.enterRows (.table alignments) head).add m verbose ps ns).leave m verbose =
      s.add m verbose [m.table head ps.flatten] (ns ++ [.table head ps.flatten]) := by
  obtain ⟨containers, headOpen, calls, log⟩ := s
  obtain ⟨c, cs, rfl⟩ := List.exists_cons_of_ne_nil hs
  cases verbose <;>
    simp [add, enterRows, leave, finish, Container.contents, construct?, writeConstruct, note,
      write, Construct.write]

@[simp] theorem step_enter (tag : Tag) : s.step m verbose (.enter tag) = s.enter tag := rfl

@[simp] theorem step_leave (tag : Tag) : s.step m verbose (.leave tag) = s.leave m verbose := rfl

theorem step_text (hs : s.insideCode = false) (t : Text) :
    s.step m verbose (.text t) = s.writeConstruct m verbose (.text t) := by simp [step, hs]

theorem step_code (hs : s.insideCode = true) (t : Text) :
    s.step m verbose (.text t) = s.write t := by simp [step, hs]

/-- Whether running text can be rendered into the innermost container. -/
def TakesText (s : Rendering) : Prop := s.containers ≠ [] ∧ s.insideCode = false

theorem takesText_enter {tag : Tag} (h : tag.isCodeBlock = false) : (s.enter tag).TakesText :=
  ⟨containers_enter tag, h⟩

end Rendering

open Rendering

/-! ## Parts of a stream -/

/-- `s'` is `s` after `a` has been rendered into the innermost container. -/
def Adds (m : Markup) (verbose : Bool) (a : Written) (s s' : Rendering) : Prop :=
  ∃ ps : List Text, ps.flatten = a.output ∧ s' = s.add m verbose ps a.constructs

namespace Adds

variable {a b : Written} {s s' s'' : Rendering}

theorem refl (s : Rendering) : Adds m verbose nothing s s := ⟨[], rfl, add_nil.symm⟩

theorem trans (ha : Adds m verbose a s s') (hb : Adds m verbose b s' s'') :
    Adds m verbose (a ++ b) s s'' := by
  obtain ⟨ps, hps, rfl⟩ := ha
  obtain ⟨qs, hqs, rfl⟩ := hb
  exact ⟨ps ++ qs, by simp [hps, hqs], add_add⟩

theorem write (t : Text) : Adds m verbose (copied t) s (s.write t) :=
  ⟨[t], by simp, write_eq_add t⟩

theorem writeConstruct (n : Construct) :
    Adds m verbose (single m n) s (s.writeConstruct m verbose n) :=
  ⟨[n.write m], by simp, writeConstruct_eq_add n⟩

theorem headOpen (h : Adds m verbose a s s') : s'.headOpen = s.headOpen := by
  obtain ⟨ps, -, rfl⟩ := h; rfl

theorem containers_ne_nil (h : Adds m verbose a s s') (hs : s.containers ≠ []) :
    s'.containers ≠ [] := by
  obtain ⟨ps, -, rfl⟩ := h; simpa using hs

theorem takesText (h : Adds m verbose a s s') (hs : s.TakesText) : s'.TakesText := by
  obtain ⟨ps, -, rfl⟩ := h
  exact ⟨by simpa using hs.1, by simpa using hs.2⟩

/-- A part of a stream in a container that becomes a construct. -/
theorem within (hs : s.containers ≠ []) {tag : Tag} (htag : tag ≠ .tableHead)
    {n : Text → Construct} (hn : ∀ t, construct? s.headOpen tag t [] = some (n t))
    {es : List Event} (h : Adds m verbose a (s.enter tag) ((s.enter tag).run m verbose es)) :
    Adds m verbose (a.enclose m n) s (s.run m verbose (.enter tag :: (es ++ [.leave tag]))) := by
  obtain ⟨ps, hps, hrun⟩ := h
  refine ⟨[(n a.output).write m], by simp, ?_⟩
  rw [run_cons, run_append, step_enter, hrun, run_cons, run_nil, step_leave,
    leave_add_enter hs htag (hn _), hps]
  rfl

/-- A part of a stream in a container without markup. -/
theorem withinPlain (hs : s.containers ≠ []) {es : List Event}
    (h : Adds m verbose a (s.enter .plain) ((s.enter .plain).run m verbose es)) :
    Adds m verbose a s (s.run m verbose (.enter .plain :: (es ++ [.leave .plain]))) := by
  obtain ⟨ps, hps, hrun⟩ := h
  refine ⟨[a.output], by simp, ?_⟩
  rw [run_cons, run_append, step_enter, hrun, run_cons, run_nil, step_leave,
    leave_add_enter_plain hs, hps]

/-- A part of a stream in a wrapper. -/
theorem wrap (w : Wrapper) (hs : s.containers ≠ []) {es : List Event}
    (h : Adds m verbose a (s.enter w.tag) ((s.enter w.tag).run m verbose es)) :
    Adds m verbose (w.enclose m a) s
      (s.run m verbose (.enter w.tag :: (es ++ [.leave w.tag]))) := by
  cases w with
  | plain => exact h.withinPlain hs
  | _ => exact h.within hs (by simp [Wrapper.tag]) fun _ => rfl

/-- The parts of a stream that come of the members of a list. -/
theorem flatMap {α : Type} {f : α → Written} {es : α → List Event} {P : Rendering → Prop}
    (hP : ∀ {b s s'}, Adds m verbose b s s' → P s → P s') :
    ∀ (xs : List α) {s : Rendering}, P s →
      (∀ x ∈ xs, ∀ {s : Rendering}, P s → Adds m verbose (f x) s (s.run m verbose (es x))) →
      Adds m verbose (concat (xs.map f)) s (s.run m verbose (xs.flatMap es))
  | [], s, _, _ => refl s
  | x :: xs, s, hs, h => by
    have hx := h x (by simp) hs
    rw [List.flatMap_cons, run_append]
    exact hx.trans (flatMap hP xs (hP hx hs) fun y hy => h y (by simp [hy]))

end Adds

/-! ## Running text -/

mutual

theorem Inline.adds_events (m : Markup) (verbose : Bool) : ∀ (i : Inline) {s : Rendering},
    s.TakesText → Adds m verbose (i.rendered m) s (s.run m verbose i.events)
  | .text t, s, hs => by
    rw [Inline.events, run_cons, run_nil, step_text hs.2]
    exact .writeConstruct _
  | .code t, s, _ => .writeConstruct _
  | .html t, s, _ => .writeConstruct _
  | .softBreak, s, _ => .writeConstruct _
  | .hardBreak, s, _ => .writeConstruct _
  | .emphasis inner, s, hs =>
    .wrap .emphasis hs.1 (Inline.adds_eventsAll m verbose inner (takesText_enter rfl))
  | .strong inner, s, hs =>
    .wrap .strong hs.1 (Inline.adds_eventsAll m verbose inner (takesText_enter rfl))
  | .strikethrough inner, s, hs =>
    .wrap .strikethrough hs.1 (Inline.adds_eventsAll m verbose inner (takesText_enter rfl))
  | .link kind target title inner, s, hs =>
    .wrap (.link kind target title) hs.1
      (Inline.adds_eventsAll m verbose inner (takesText_enter rfl))
  | .image target title inner, s, hs =>
    .wrap (.image target title) hs.1
      (Inline.adds_eventsAll m verbose inner (takesText_enter rfl))
  | .taskMarker checked, s, _ => (Adds.writeConstruct _).trans (.write _)
  | .plainSpan inner, s, hs =>
    .wrap .plain hs.1 (Inline.adds_eventsAll m verbose inner (takesText_enter rfl))

/-- Running text adds what it is rendered as, wherever it stands. -/
theorem Inline.adds_eventsAll (m : Markup) (verbose : Bool) : ∀ (is : List Inline) {s : Rendering},
    s.TakesText →
      Adds m verbose (Inline.renderedAll m is) s (s.run m verbose (Inline.eventsAll is))
  | [], s, _ => .refl s
  | i :: is, s, hs => by
    have hi := Inline.adds_events m verbose i hs
    rw [Inline.eventsAll, run_append]
    exact hi.trans (Inline.adds_eventsAll m verbose is (hi.takesText hs))

end

/-! ## Code, HTML and tables -/

/-- The text of a code block is collected, not written as a construct. -/
theorem adds_codePieces : ∀ (pieces : List Text) {s : Rendering}, s.insideCode = true →
    Adds m verbose (copied pieces.flatten) s (s.run m verbose (pieces.map .text))
  | [], s, _ => .refl s
  | t :: ts, s, hs => by
    have ht : Adds m verbose (copied t) s (s.write t) := .write t
    have hw : (s.write t).insideCode = true := by
      obtain ⟨ps, -, h⟩ := ht
      rw [h, insideCode_add, hs]
    rw [List.map_cons, run_cons, step_code hs]
    exact ht.trans (adds_codePieces ts hw)

theorem HtmlPiece.adds_event (p : HtmlPiece) {s : Rendering} (hs : s.TakesText) :
    Adds m verbose (p.rendered m) s (s.run m verbose [p.event]) := by
  cases p with
  | indent t =>
    rw [HtmlPiece.event, run_cons, run_nil, step_text hs.2]
    exact .writeConstruct _
  | raw t => exact .write t

theorem adds_htmlPieces (pieces : List HtmlPiece) {s : Rendering} (hs : s.TakesText) :
    Adds m verbose (concat (pieces.map (HtmlPiece.rendered m))) s
      (s.run m verbose (pieces.map HtmlPiece.event)) := by
  rw [show pieces.map HtmlPiece.event = pieces.flatMap fun p => [p.event] from List.map_eq_flatMap]
  exact .flatMap Adds.takesText pieces hs fun p _ => HtmlPiece.adds_event p

/-- The cells of a row. They are headers exactly if the head of their table is open. -/
theorem adds_cells (m : Markup) (verbose : Bool) (cells : List (List Inline)) {s : Rendering}
    (hs : s.containers ≠ []) :
    Adds m verbose (concat (cells.map (renderedCell m s.headOpen))) s
      (s.run m verbose (cells.flatMap fun c =>
        .enter .tableCell :: (Inline.eventsAll c ++ [.leave .tableCell]))) := by
  refine .flatMap (P := fun s' => s'.containers ≠ [] ∧ s'.headOpen = s.headOpen)
    (fun h hs' => ⟨h.containers_ne_nil hs'.1, by rw [h.headOpen, hs'.2]⟩) cells ⟨hs, rfl⟩
    fun c _ s' hs' => ?_
  rw [← hs'.2]
  exact .within hs'.1 (by decide) (fun _ => rfl)
    (Inline.adds_eventsAll m verbose c (takesText_enter rfl))

theorem adds_row (cells : List (List Inline)) {s : Rendering} (hs : s.containers ≠ [])
    (hh : s.headOpen = false) :
    Adds m verbose (renderedRow m false cells) s (s.run m verbose (rowEvents .tableRow cells)) := by
  have h := adds_cells m verbose cells (containers_enter (s := s) .tableRow)
  rw [headOpen_enter (by decide), hh] at h
  exact .within hs (by decide) (fun _ => rfl) h

theorem adds_rows (m : Markup) (verbose : Bool) (rows : List (List (List Inline)))
    {s : Rendering} (hs : s.containers ≠ []) (hh : s.headOpen = false) :
    Adds m verbose (concat (rows.map (renderedRow m false))) s
      (s.run m verbose (rows.flatMap (rowEvents .tableRow))) := by
  refine .flatMap (P := fun s' => s'.containers ≠ [] ∧ s'.headOpen = false)
    (fun h hs' => ⟨h.containers_ne_nil hs'.1, by rw [h.headOpen, hs'.2]⟩) rows ⟨hs, hh⟩
    fun cells _ s' hs' => adds_row cells hs'.1 hs'.2

/-- The head row of a table. Its cells are headers, since entering it opens the head. -/
theorem run_head (alignments : List Markdown.Alignment) (head : List (List Inline))
    {s : Rendering} (hh : s.headOpen = false) :
    (s.enter (.table alignments)).run m verbose (rowEvents .tableHead head) =
      (s.enterRows (.table alignments) (renderedRow m true head).output).add m verbose []
        (renderedRow m true head).constructs := by
  obtain ⟨ps, hps, hrun⟩ := adds_cells m verbose head
    (containers_enter (s := s.enter (.table alignments)) .tableHead)
  have hopen : ((s.enter (.table alignments)).enter .tableHead).headOpen = true := by
    simp [enter]
  rw [hopen] at hps hrun
  rw [rowEvents, run_cons, run_append, step_enter, hrun, run_cons, run_nil, step_leave,
    leave_head (by simp) hh, hps]
  rfl

/-- A table adds its head row and its body rows apart, whatever table was there before. -/
theorem adds_table (alignments : List Markdown.Alignment) (head : List (List Inline))
    (rows : List (List (List Inline))) {s : Rendering} (hs : s.containers ≠ [])
    (hh : s.headOpen = false) :
    Adds m verbose (renderedTable m head rows) s
      (s.run m verbose (Node.events (.table alignments head rows))) := by
  have hrow : ((s.enterRows (.table alignments) (renderedRow m true head).output).add m verbose []
      (renderedRow m true head).constructs).containers ≠ [] := by
    simp [enterRows]
  obtain ⟨ps, hps, hrows⟩ := adds_rows m verbose rows hrow hh
  refine ⟨[m.table (renderedRow m true head).output ps.flatten], by simp [renderedTable, hps], ?_⟩
  rw [Node.events, run_cons, run_append, run_append, step_enter, run_head alignments head hh,
    hrows, add_add, run_cons, run_nil, step_leave, leave_rows hs, List.nil_append, hps]
  simp [renderedTable]

/-! ## Trees -/

mutual

theorem Node.adds_events (m : Markup) (verbose : Bool) : ∀ (n : Node) {s : Rendering},
    s.TakesText → s.headOpen = false → Adds m verbose (n.rendered m) s (s.run m verbose n.events)
  | .inline i, s, hs, _ => Inline.adds_events m verbose i hs
  | .rule, s, _, _ => .writeConstruct _
  | .verbatim t, s, _, _ => .write t
  | .within w inner, s, hs, hh =>
    .wrap w hs.1 (Node.adds_eventsAll m verbose inner (takesText_enter w.isCodeBlock_tag)
      ((headOpen_enter w.tag_ne_tableHead).trans hh))
  | .code kind pieces, s, hs, _ =>
    .within hs.1 (by simp) (fun _ => rfl) (adds_codePieces pieces rfl)
  | .html pieces, s, hs, _ =>
    .within hs.1 (by simp) (fun _ => rfl) (adds_htmlPieces pieces (takesText_enter rfl))
  | .table alignments head rows, s, hs, hh => adds_table alignments head rows hs.1 hh

/-- **The stream of trees adds what they are rendered as** to whatever container is innermost,
    if that takes text and the head of no table is open. -/
theorem Node.adds_eventsAll (m : Markup) (verbose : Bool) : ∀ (ns : List Node) {s : Rendering},
    s.TakesText → s.headOpen = false →
      Adds m verbose (Node.renderedAll m ns) s (s.run m verbose (Node.eventsAll ns))
  | [], s, _, _ => .refl s
  | n :: ns, s, hs, hh => by
    have hn := Node.adds_events m verbose n hs hh
    rw [Node.eventsAll, run_append]
    exact hn.trans (Node.adds_eventsAll m verbose ns (hn.takesText hs) (hn.headOpen.trans hh))

end

/-! ## Whole streams -/

/-- What a whole stream gives: there is nothing left to close at its end. -/
theorem render_of_adds {es : List Event} {a : Written}
    (h : Adds m verbose a .initial (Rendering.initial.run m verbose es)) :
    render m verbose es =
      ⟨a.output, a.constructs.map fun n => ⟨n, n.write m⟩,
        if verbose then a.constructs else []⟩ := by
  obtain ⟨ps, hps, hrun⟩ := h
  rw [render, hrun]
  cases verbose <;>
    simp [add, initial, Container.ofTag, closeAll, output, Container.contents, hps]

theorem takesText_initial : initial.TakesText := ⟨by simp [initial], rfl⟩

/-- **Rendering a stream is structural recursion on the trees it flattens.** -/
theorem render_eventsAll (m : Markup) (verbose : Bool) (ns : List Node) :
    (render m verbose (Node.eventsAll ns)).output = (Node.renderedAll m ns).output ∧
    (render m verbose (Node.eventsAll ns)).calls =
      (Node.renderedAll m ns).constructs.map (fun n => ⟨n, n.write m⟩) ∧
    (∃ ps, (Rendering.initial.run m verbose (Node.eventsAll ns)).containers = [⟨none, ps, []⟩]) ∧
    (Rendering.initial.run m verbose (Node.eventsAll ns)).headOpen = false := by
  have h := Node.adds_eventsAll m verbose ns takesText_initial rfl
  rw [render_of_adds h]
  refine ⟨rfl, rfl, ?_, h.headOpen⟩
  obtain ⟨ps, -, hrun⟩ := h
  exact ⟨_, by rw [hrun]; rfl⟩

/-- What a document is rendered as. -/
theorem render_events (m : Markup) (verbose : Bool) (doc : Document) :
    (render m verbose (Markdown.events doc)).output = Block.outputAll m doc := by
  have h := Node.adds_eventsAll m verbose (Block.nodesAll doc) takesText_initial rfl
  rw [Block.eventsAll_nodesAll] at h
  rw [Markdown.events, render_of_adds h, Block.outputAll]

end JiraMarkup.Wiki
