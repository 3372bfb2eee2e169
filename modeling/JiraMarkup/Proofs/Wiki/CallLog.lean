/-
  What the log of a rendering has to do with the rendering: it follows the calls, and nothing
  follows it.

  * `unlogged_step` and `Logged.step` say so for one event, whatever the markup and whatever
    containers are open, `render_unlogged` for whole streams;
  * `Heard` are the renderings that have no output without a call; `Block.heard_nodesAll` says
    that those of documents are.
-/
import JiraMarkup.Proofs.Wiki.Written

namespace JiraMarkup

open Markdown (Event Tag)

namespace Wiki

variable {m : Markup} {verbose : Bool}

namespace Rendering

/-! ## The state without its log -/

/-- A state without its log. -/
def unlogged (s : Rendering) : Rendering := { s with log := [] }

variable {s : Rendering}

@[simp] theorem containers_unlogged : s.unlogged.containers = s.containers := rfl

@[simp] theorem headOpen_unlogged : s.unlogged.headOpen = s.headOpen := rfl

@[simp] theorem insideCode_unlogged : s.unlogged.insideCode = s.insideCode := rfl

theorem unlogged_write (t : Text) : (s.write t).unlogged = s.unlogged.write t := by
  rcases s with ⟨_ | ⟨c, cs⟩, _, _, _⟩ <;> rfl

theorem unlogged_writeHead (t : Text) : (s.writeHead t).unlogged = s.unlogged.writeHead t := by
  rcases s with ⟨_ | ⟨c, cs⟩, _, _, _⟩ <;> rfl

theorem unlogged_note (n : Construct) :
    (s.note m verbose n).unlogged = s.unlogged.note m false n := rfl

theorem unlogged_writeConstruct (n : Construct) :
    (s.writeConstruct m verbose n).unlogged = s.unlogged.writeConstruct m false n := by
  rw [writeConstruct, unlogged_write, unlogged_note, writeConstruct]

theorem unlogged_finish (c : Container) :
    (s.finish m verbose c).unlogged = s.unlogged.finish m false c := by
  rw [finish.eq_def, finish.eq_def]
  split
  · rfl
  · rw [headOpen_unlogged]
    split
    · exact unlogged_write _
    · split
      · exact unlogged_writeHead _
      · exact unlogged_writeConstruct _

theorem unlogged_leave : (s.leave m verbose).unlogged = s.unlogged.leave m false := by
  obtain ⟨_ | ⟨c, _ | ⟨around, cs⟩⟩, headOpen, calls, log⟩ := s
  · rfl
  · rfl
  · exact unlogged_finish c

/-- One event has the same effect whether or not calls are logged. -/
theorem unlogged_step (s : Rendering) (e : Event) :
    (s.step m verbose e).unlogged = s.unlogged.step m false e := by
  cases e with
  | enter tag => rfl
  | leave tag => exact unlogged_leave
  | text t =>
    rw [step, step, insideCode_unlogged]
    split
    · exact unlogged_write t
    · exact unlogged_writeConstruct _
  | code t => exact unlogged_writeConstruct _
  | html t => exact unlogged_write t
  | inlineHtml t => exact unlogged_writeConstruct _
  | softBreak => exact unlogged_writeConstruct _
  | hardBreak => exact unlogged_writeConstruct _
  | rule => exact unlogged_writeConstruct _
  | taskMarker checked =>
    rw [step, step, unlogged_write, unlogged_writeConstruct]
  | verbatim t => exact unlogged_write t

theorem unlogged_run (s : Rendering) (es : List Event) :
    (s.run m verbose es).unlogged = s.unlogged.run m false es := by
  induction es generalizing s with
  | nil => rfl
  | cons e es ih =>
    rw [run, List.foldl_cons, ← run, ih, unlogged_step]
    rfl

theorem unlogged_closeAll (n : Nat) (s : Rendering) :
    (s.closeAll m verbose n).unlogged = s.unlogged.closeAll m false n := by
  induction n generalizing s with
  | zero => rfl
  | succ n ih => rw [closeAll, ih, unlogged_leave, closeAll]

/-! ## The log and the calls -/

/-- The log holds the constructs of all calls if calls are logged, and nothing otherwise. -/
def Logged (verbose : Bool) (s : Rendering) : Prop :=
  s.log = if verbose then s.calls.map Call.construct else []

namespace Logged

theorem write (h : s.Logged verbose) (t : Text) : (s.write t).Logged verbose := by
  rcases s with ⟨_ | ⟨c, cs⟩, _, _, _⟩ <;> exact h

theorem writeHead (h : s.Logged verbose) (t : Text) : (s.writeHead t).Logged verbose := by
  rcases s with ⟨_ | ⟨c, cs⟩, _, _, _⟩ <;> exact h

theorem note (h : s.Logged verbose) (n : Construct) : (s.note m verbose n).Logged verbose := by
  rw [Logged] at h
  cases verbose <;> simp [Logged, Rendering.note, h]

theorem writeConstruct (h : s.Logged verbose) (n : Construct) :
    (s.writeConstruct m verbose n).Logged verbose := (h.note n).write _

theorem finish (h : s.Logged verbose) (c : Container) :
    (s.finish m verbose c).Logged verbose := by
  rw [Rendering.finish.eq_def]
  split
  · exact h
  · split
    · exact h.write _
    · split
      · next n _ _ =>
        have hclosed : Logged verbose { s with headOpen := false } := h
        exact (hclosed.note n).writeHead _
      · exact h.writeConstruct _

theorem leave (h : s.Logged verbose) : (s.leave m verbose).Logged verbose := by
  obtain ⟨_ | ⟨c, _ | ⟨around, cs⟩⟩, headOpen, calls, log⟩ := s
  · exact h
  · exact h
  · have hleft : Logged verbose ⟨around :: cs, headOpen, calls, log⟩ := h
    exact hleft.finish c

theorem step (h : s.Logged verbose) (e : Event) : (s.step m verbose e).Logged verbose := by
  cases e with
  | enter tag => exact h
  | leave tag => exact h.leave
  | text t =>
    rw [Rendering.step]
    split
    · exact h.write t
    · exact h.writeConstruct _
  | code t => exact h.writeConstruct _
  | html t => exact h.write t
  | inlineHtml t => exact h.writeConstruct _
  | softBreak => exact h.writeConstruct _
  | hardBreak => exact h.writeConstruct _
  | rule => exact h.writeConstruct _
  | taskMarker checked => exact (h.writeConstruct _).write _
  | verbatim t => exact h.write t

theorem run (h : s.Logged verbose) (es : List Event) : (s.run m verbose es).Logged verbose := by
  induction es generalizing s with
  | nil => exact h
  | cons e es ih => exact ih (h.step e)

theorem closeAll (h : s.Logged verbose) (n : Nat) : (s.closeAll m verbose n).Logged verbose := by
  induction n generalizing s with
  | zero => exact h
  | succ n ih => exact ih h.leave

end Logged

end Rendering

open Rendering

/-! ## Whole streams -/

/-- The state at the end of a stream, all containers left. -/
def finalState (m : Markup) (verbose : Bool) (es : List Event) : Rendering :=
  let s := Rendering.initial.run m verbose es
  s.closeAll m verbose (s.containers.length - 1)

theorem unlogged_finalState (m : Markup) (verbose : Bool) (es : List Event) :
    (finalState m verbose es).unlogged = finalState m false es := by
  have hrun : (Rendering.initial.run m verbose es).unlogged = Rendering.initial.run m false es :=
    unlogged_run _ es
  have hlength : (Rendering.initial.run m verbose es).containers.length =
      (Rendering.initial.run m false es).containers.length := by
    rw [← hrun, containers_unlogged]
  rw [finalState, unlogged_closeAll, hrun, hlength, finalState]

/-- **The log follows the calls and changes nothing.** Of any stream, the output and the calls
    are the same whether or not calls are logged. If they are, the log has the construct of
    each call, in their order; if not, it is empty. -/
theorem render_unlogged (m : Markup) (verbose : Bool) (es : List Event) :
    (render m verbose es).output = (render m false es).output ∧
      (render m verbose es).calls = (render m false es).calls ∧
      (render m verbose es).log =
        if verbose then (render m verbose es).calls.map Call.construct else [] := by
  have hquiet := unlogged_finalState m verbose es
  have hlogged : (finalState m verbose es).Logged verbose := by
    have hinitial : Rendering.initial.Logged verbose := by cases verbose <;> rfl
    exact (hinitial.run es).closeAll _
  refine ⟨?_, ?_, ?_⟩
  · have houtput : (finalState m verbose es).output =
        (finalState m verbose es).unlogged.output := rfl
    rw [hquiet] at houtput
    exact houtput
  · have hcalls : (finalState m verbose es).calls = (finalState m verbose es).unlogged.calls := rfl
    rw [hquiet] at hcalls
    exact congrArg List.reverse hcalls
  · have hlog : (render m verbose es).log = (finalState m verbose es).log.reverse := rfl
    have hcalls : (render m verbose es).calls = (finalState m verbose es).calls.reverse := rfl
    rw [hlog, hcalls, hlogged]
    cases verbose <;> simp

/-! ## Output and calls -/

namespace Written

/-- A rendering that has no output without a call. -/
def Heard (a : Written) : Prop := a.constructs = [] → a.output = []

variable {a b : Written}

theorem heard_nothing : Heard nothing := fun _ => rfl

theorem heard_of_ne_nil (h : a.constructs ≠ []) : a.Heard := fun hnil => absurd hnil h

theorem heard_single (n : Construct) : (single m n).Heard := heard_of_ne_nil (by simp [single])

theorem heard_enclose (n : Text → Construct) (a : Written) : (a.enclose m n).Heard :=
  heard_of_ne_nil (by simp [enclose])

theorem Heard.append (ha : a.Heard) (hb : b.Heard) : (a ++ b).Heard := by
  intro hnil
  rw [constructs_append, List.append_eq_nil_iff] at hnil
  rw [output_append, ha hnil.1, hb hnil.2, List.append_nil]

end Written

end Wiki

namespace Markdown

open Wiki (Markup Written)
open Wiki.Written (Heard heard_nothing heard_of_ne_nil heard_single heard_enclose)

variable {m : Markup} {a : Written}

theorem Wrapper.heard_enclose (h : a.Heard) (w : Wrapper) : (w.enclose m a).Heard := by
  cases w with
  | plain => exact h
  | _ => exact Wiki.Written.heard_enclose _ a

mutual

theorem Inline.heard_rendered (m : Markup) : ∀ i : Inline, (i.rendered m).Heard
  | .text _ | .code _ | .html _ | .softBreak | .hardBreak => heard_single _
  | .emphasis _ | .strong _ | .strikethrough _ | .link _ _ _ _ | .image _ _ _ => heard_enclose _ _
  | .taskMarker _ => heard_of_ne_nil (by simp [Inline.rendered, Wiki.Written.single])
  | .plainSpan inner => Inline.heard_renderedAll m inner

theorem Inline.heard_renderedAll (m : Markup) : ∀ is : List Inline, (Inline.renderedAll m is).Heard
  | [] => heard_nothing
  | i :: is => (Inline.heard_rendered m i).append (Inline.heard_renderedAll m is)

end

theorem Node.heard_single {n : Node} (h : (n.rendered m).Heard) :
    (Node.renderedAll m [n]).Heard := h.append heard_nothing

mutual

theorem Block.heard_nodes (m : Markup) : ∀ b : Block (List Inline),
    (Node.renderedAll m b.nodes).Heard
  | .paragraph _ | .heading _ _ | .quote _ | .list _ _ | .code _ _ | .html _ =>
    Node.heard_single (heard_enclose _ _)
  | .plain content => by
    rw [nodes, Node.renderedAll_map_inline]
    exact Inline.heard_renderedAll m content
  | .table _ head rows =>
    Node.heard_single (heard_of_ne_nil (by simp [Node.rendered, renderedTable]))
  | .rule => Node.heard_single (heard_single _)
  | .plainGroup inner => Node.heard_single (Block.heard_nodesAll m inner)

/-- **A document has no output without a call.** HTML that is copied as it is stands in blocks
    of HTML, and these are calls. -/
theorem Block.heard_nodesAll (m : Markup) : ∀ bs : List (Block (List Inline)),
    (Node.renderedAll m (Block.nodesAll bs)).Heard
  | [] => heard_nothing
  | b :: bs => by
    rw [nodesAll, Node.renderedAll_append]
    exact (Block.heard_nodes m b).append (Block.heard_nodesAll m bs)

end

end Markdown

end JiraMarkup
