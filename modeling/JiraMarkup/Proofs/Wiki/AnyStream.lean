/-
  Rendering any stream, whether or not its containers are left in order, or at all.

  * `tags_step` is all that an event does to the open containers. `Rooted` are the states in
    which the document is the outermost of them and the only one without a tag: `Rooted.step` and
    `Rooted.run` say that no stream leads out of them;
  * `run_unnamed`: it does not matter which container an event names that leaves one;
  * `run_leaves` and `closeAll_closeAll`: containers are left at the end of a stream as they are
    left by events, and there is nothing to leave but what is open;
  * `render_any_stream` says all this of whole streams.
-/
import JiraMarkup.Proofs.Conversion.CodeAgreement
import JiraMarkup.Proofs.Wiki.CallLog

namespace JiraMarkup

/-! ## Names of containers -/

namespace Markdown

/-- The event without the name of the container that is left. -/
def Event.unnamed : Event → Event
  | .leave _ => .leave .plain
  | e => e

end Markdown

namespace Wiki

open Markdown (Event Tag)

variable {m : Markup} {verbose : Bool}

namespace Rendering

variable {s : Rendering}

theorem step_unnamed (s : Rendering) (e : Event) :
    s.step m verbose e.unnamed = s.step m verbose e := by
  cases e <;> rfl

/-- **It does not matter which container is named** where one is left. -/
theorem run_unnamed (s : Rendering) (es : List Event) :
    s.run m verbose (es.map Event.unnamed) = s.run m verbose es := by
  induction es generalizing s with
  | nil => rfl
  | cons e es ih => rw [List.map_cons, run_cons, run_cons, step_unnamed, ih]

/-! ## The tags of the open containers -/

/-- What is left of some tags when the innermost container is left, unless it is the document. -/
def leaveTag : List (Option Tag) → List (Option Tag)
  | _ :: around :: tags => around :: tags
  | tags => tags

theorem tags_writeConstruct (n : Construct) : (s.writeConstruct m verbose n).tags = s.tags :=
  (Keeps.write (n.write m)).tags

/-- A container that has been left does nothing to the tags of those around it. -/
theorem tags_finish (c : Container) : (s.finish m verbose c).tags = s.tags := by
  rw [finish.eq_def]
  split
  · rfl
  · split
    · exact (Keeps.write _).tags
    · split
      · exact (Keeps.writeHead _).tags
      · exact tags_writeConstruct _

theorem tags_leave (s : Rendering) : (s.leave m verbose).tags = leaveTag s.tags := by
  obtain ⟨_ | ⟨c, _ | ⟨around, cs⟩⟩, headOpen, calls, log⟩ := s
  · rfl
  · rfl
  · exact tags_finish c

/-- **What an event does to the open containers**: it enters one, leaves one, or none of both. -/
theorem tags_step (s : Rendering) (e : Event) :
    (s.step m verbose e).tags =
      match e with
      | .enter tag => some tag :: s.tags
      | .leave _ => leaveTag s.tags
      | _ => s.tags := by
  cases e with
  | enter tag => rfl
  | leave tag => exact tags_leave s
  | text t =>
    rw [step]
    split
    · exact (Keeps.write t).tags
    · exact tags_writeConstruct _
  | code t => exact tags_writeConstruct _
  | html t => exact (Keeps.write t).tags
  | inlineHtml t => exact tags_writeConstruct _
  | softBreak => exact tags_writeConstruct _
  | hardBreak => exact tags_writeConstruct _
  | rule => exact tags_writeConstruct _
  | taskMarker checked => exact (Keeps.write [' ']).tags.trans (tags_writeConstruct _)
  | verbatim t => exact (Keeps.write t).tags

/-- A state in which the outermost of the open containers, and it alone, has no tag: it is the
    document. -/
def Rooted (s : Rendering) : Prop := ∃ tags : List Tag, s.tags = tags.map some ++ [none]

theorem rooted_initial : initial.Rooted := ⟨[], rfl⟩

theorem Rooted.step (hs : s.Rooted) (e : Event) : (s.step m verbose e).Rooted := by
  obtain ⟨tags, hs⟩ := hs
  rw [Rooted, tags_step, hs]
  cases e with
  | enter tag => exact ⟨tag :: tags, rfl⟩
  | leave _ =>
    -- The document is not left; of any other container the ones around it remain.
    match tags with
    | [] => exact ⟨[], rfl⟩
    | [_] => exact ⟨[], rfl⟩
    | _ :: tag :: tags => exact ⟨tag :: tags, rfl⟩
  | _ => exact ⟨tags, rfl⟩

/-- **No stream closes the document**, or opens a second one. -/
theorem Rooted.run (hs : s.Rooted) (es : List Event) : (s.run m verbose es).Rooted := by
  induction es generalizing s with
  | nil => exact hs
  | cons e es ih => exact ih (hs.step e)

/-! ## Leaving containers -/

/-- How many containers are open within the document. -/
def depth (s : Rendering) : Nat := s.containers.length - 1

theorem depth_eq (s : Rendering) : s.depth = s.tags.length - 1 := by
  rw [depth, tags, List.length_map]

theorem depth_leave (s : Rendering) : (s.leave m verbose).depth = s.depth - 1 := by
  rw [depth_eq, depth_eq, tags_leave]
  rcases s.tags with _ | ⟨tag, _ | ⟨around, tags⟩⟩ <;> rfl

theorem Rooted.length_containers (hs : s.Rooted) : s.containers.length = s.depth + 1 := by
  obtain ⟨names, hs⟩ := hs
  have hlength : s.containers.length = s.tags.length := by rw [tags, List.length_map]
  rw [depth, hlength, hs]
  simp

theorem leave_of_depth (hs : s.depth = 0) : s.leave m verbose = s := by
  obtain ⟨_ | ⟨c, _ | ⟨around, cs⟩⟩, headOpen, calls, log⟩ := s
  · rfl
  · rfl
  · simp [depth] at hs

theorem depth_closeAll (n : Nat) (s : Rendering) :
    (s.closeAll m verbose n).depth = s.depth - n := by
  induction n generalizing s with
  | zero => rfl
  | succ n ih => rw [closeAll, ih, depth_leave, Nat.sub_sub, Nat.add_comm]

/-- Events that leave containers do so as the end of the stream does. -/
theorem run_leaves (s : Rendering) (tags : List Tag) :
    s.run m verbose (tags.map .leave) = s.closeAll m verbose tags.length := by
  induction tags generalizing s with
  | nil => rfl
  | cons tag tags ih => rw [List.map_cons, run_cons, ih, step_leave, List.length_cons, closeAll]

/-- Once a container has been left, the end of the stream leaves the others. -/
theorem closeAll_leave (s : Rendering) :
    (s.leave m verbose).closeAll m verbose (s.leave m verbose).depth =
      s.closeAll m verbose s.depth := by
  rw [depth_leave]
  rcases hd : s.depth with _ | d
  · rw [leave_of_depth hd]
  · rw [Nat.add_sub_cancel, closeAll]

/-- However many containers have been left already, or tried to leave, the end of the stream
    leaves what is open and leads to the same state. -/
theorem closeAll_closeAll (n : Nat) (s : Rendering) :
    (s.closeAll m verbose n).closeAll m verbose (s.closeAll m verbose n).depth =
      s.closeAll m verbose s.depth := by
  induction n generalizing s with
  | zero => rfl
  | succ n ih => rw [closeAll, ih, closeAll_leave]

end Rendering

open Rendering

/-! ## Whole streams -/

theorem finalState_append_leaves (m : Markup) (verbose : Bool) (es : List Event)
    (tags : List Tag) : finalState m verbose (es ++ tags.map .leave) = finalState m verbose es := by
  have hrun : initial.run m verbose (es ++ tags.map .leave) =
      (initial.run m verbose es).closeAll m verbose tags.length := by
    rw [run_append, run_leaves]
  rw [finalState, hrun]
  exact closeAll_closeAll tags.length _

/-- **Any stream can be rendered.** Whatever the markup, and whether or not the containers of a
    stream are left in order, or at all:

    * after each part of it that comes first, the document is open, as the outermost container and
      the only one without a tag;
    * where nothing but the document is open, leaving changes nothing;
    * streams that differ only in the names of the containers that are left have the same run;
    * more events that leave containers, however many, do not change what is rendered;
    * with as many of them as there are containers open, all but the document have been left, and
      the output, the calls and the log are those that the end of the stream leads to. -/
theorem render_any_stream (m : Markup) (verbose : Bool) (es : List Event) :
    (∀ n, (initial.run m verbose (es.take n)).Rooted) ∧
      (∀ (s : Rendering) (document : Container) (tag : Tag),
        { s with containers := [document] }.step m verbose (.leave tag) =
          { s with containers := [document] }) ∧
      (∀ es', es'.map Event.unnamed = es.map Event.unnamed →
        initial.run m verbose es' = initial.run m verbose es) ∧
      (∀ tags : List Tag, render m verbose (es ++ tags.map .leave) = render m verbose es) ∧
      ∀ tags : List Tag, tags.length + 1 = (initial.run m verbose es).containers.length →
        let left := initial.run m verbose (es ++ tags.map .leave)
        left.containers.length = 1 ∧
          render m verbose es = ⟨left.output, left.calls.reverse, left.log.reverse⟩ := by
  refine ⟨fun n => rooted_initial.run _, fun _ _ _ => rfl, fun es' h => ?_, fun tags => ?_,
    fun tags h => ?_⟩
  · rw [← run_unnamed initial es', h, run_unnamed]
  · have hfinal := finalState_append_leaves m verbose es tags
    have hrender : ∀ es, render m verbose es = ⟨(finalState m verbose es).output,
        (finalState m verbose es).calls.reverse, (finalState m verbose es).log.reverse⟩ :=
      fun _ => rfl
    rw [hrender, hfinal, hrender]
  · have hdepth : (initial.run m verbose es).depth = tags.length := by
      rw [depth, ← h, Nat.add_sub_cancel]
    have hleft : initial.run m verbose (es ++ tags.map .leave) = finalState m verbose es := by
      rw [run_append, run_leaves, finalState, ← hdepth, depth]
    refine ⟨?_, by rw [hleft]; rfl⟩
    rw [(rooted_initial.run _).length_containers, run_append, run_leaves, depth_closeAll, hdepth,
      Nat.sub_self]

end Wiki

end JiraMarkup
