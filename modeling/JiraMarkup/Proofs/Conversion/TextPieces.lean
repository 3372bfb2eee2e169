/-
  It does not matter into which pieces the text of a stream is cut.

  * `Cut` cuts one text, or one line of HTML, into pieces; streams with the `SameText` come from
    each other by cutting and by putting pieces together;
  * `Alike` are states that differ in the pieces of their containers and in the calls for text.
    `Alike.step` and `Alike.run` say that they stay alike whatever follows, and `Alike.of_cut` that
    cutting leads to states that are alike;
  * `found_of_cut` is the same for the code blocks that are found for HTML;
  * `render_sameText`: streams with the same text have the same output, the same calls but for
    those for text, and the same code blocks in HTML.
-/
import JiraMarkup.Proofs.Html.FoundCode
import JiraMarkup.Proofs.Wiki.TreeRendering
import JiraMarkup.Wiki.Jira
import Mathlib.Logic.Relation

namespace JiraMarkup

open Markdown (Event Tag CodeKind)

/-! ## Streams -/

namespace Markdown

/-- A stream, and one that has one of its texts, or one of its lines of HTML, in pieces. An empty
    text may be in no pieces at all. -/
inductive Cut : List Event → List Event → Prop where
  | text (before after : List Event) (pieces : List Text) :
      Cut (before ++ .text pieces.flatten :: after) (before ++ (pieces.map .text ++ after))
  | html (before after : List Event) (pieces : List Text) :
      Cut (before ++ .html pieces.flatten :: after) (before ++ (pieces.map .html ++ after))

/-- Streams that come from each other by cutting text and HTML into pieces and by putting pieces
    together. -/
def SameText : List Event → List Event → Prop := Relation.EqvGen Cut

end Markdown

open Markdown (Cut SameText)

/-! ## States -/

namespace Wiki

variable {m : Markup} {verbose : Bool}

/-- Whether a construct is text. -/
def Construct.isText : Construct → Bool
  | .text _ => true
  | _ => false

/-- The container with its contents in one piece. -/
def Container.joined (c : Container) : Container := { c with pieces := [c.contents] }

@[simp] theorem Container.contents_joined (c : Container) : c.joined.contents = c.contents := by
  simp [joined, contents]

@[simp] theorem Container.joined_joined (c : Container) : c.joined.joined = c.joined := by
  rw [joined, contents_joined]
  rfl

namespace Rendering

/-- The state with the contents of each container in one piece, and without the calls for text. -/
def joined (s : Rendering) : Rendering where
  containers := s.containers.map Container.joined
  headOpen := s.headOpen
  calls := s.calls.filter fun c => !c.construct.isText
  log := s.log.filter fun n => !n.isText

/-- States that differ only in the pieces of the contents of their containers, and in the calls
    for text. -/
def Alike (s s' : Rendering) : Prop := s.joined = s'.joined

variable {s s' : Rendering}

@[simp] theorem joined_joined (s : Rendering) : s.joined.joined = s.joined := by
  simp [joined]

@[simp] theorem insideCode_joined (s : Rendering) : s.joined.insideCode = s.insideCode := by
  rcases s with ⟨_ | ⟨c, cs⟩, _, _, _⟩ <;> rfl

theorem alike_joined (s : Rendering) : Alike s.joined s := joined_joined s

namespace Alike

theorem headOpen (h : Alike s s') : s.headOpen = s'.headOpen := by
  have hjoined : s.joined.headOpen = s'.joined.headOpen := by rw [h]
  exact hjoined

theorem insideCode (h : Alike s s') : s.insideCode = s'.insideCode := by
  rw [← insideCode_joined, h, insideCode_joined]

theorem length_containers (h : Alike s s') : s.containers.length = s'.containers.length := by
  have hlength := congrArg (fun s => s.containers.length) h
  simpa [joined] using hlength

theorem output (h : Alike s s') : s.output = s'.output := by
  have hjoined : ∀ s : Rendering, s.joined.output = s.output := by
    rintro ⟨_ | ⟨c, cs⟩, _, _, _⟩
    · rfl
    · exact c.contents_joined
  rw [← hjoined, h, hjoined]

/-! ## One event -/

theorem write (h : Alike s s') (t : Text) : Alike (s.write t) (s'.write t) := by
  have hjoined : ∀ s : Rendering, (s.write t).joined = (s.joined.write t).joined := by
    rintro ⟨_ | ⟨c, cs⟩, _, _, _⟩ <;>
      simp [joined, Rendering.write, Container.joined, Container.contents]
  rw [Alike, hjoined, h, ← hjoined]

theorem writeHead (h : Alike s s') (t : Text) : Alike (s.writeHead t) (s'.writeHead t) := by
  have hjoined : ∀ s : Rendering, (s.writeHead t).joined = (s.joined.writeHead t).joined := by
    rintro ⟨_ | ⟨c, cs⟩, _, _, _⟩ <;>
      simp [joined, Rendering.writeHead, Container.joined, Container.contents]
  rw [Alike, hjoined, h, ← hjoined]

theorem note (h : Alike s s') (n : Construct) :
    Alike (s.note m verbose n) (s'.note m verbose n) := by
  have hjoined : ∀ s : Rendering,
      (s.note m verbose n).joined = (s.joined.note m verbose n).joined := by
    intro s
    cases hn : n.isText <;> cases verbose <;> simp [joined, Rendering.note, hn]
  rw [Alike, hjoined, h, ← hjoined]

theorem writeConstruct (h : Alike s s') (n : Construct) :
    Alike (s.writeConstruct m verbose n) (s'.writeConstruct m verbose n) :=
  (h.note n).write _

theorem closeHead (h : Alike s s') :
    Alike { s with headOpen := false } { s' with headOpen := false } := by
  have hjoined : ({ s.joined with headOpen := false } : Rendering) =
      { s'.joined with headOpen := false } := by rw [h]
  exact hjoined

theorem enter (h : Alike s s') (tag : Tag) : Alike (s.enter tag) (s'.enter tag) := by
  have hjoined : ∀ s : Rendering, (s.enter tag).joined = (s.joined.enter tag).joined := by
    intro s
    simp [joined, Rendering.enter]
  rw [Alike, hjoined, h, ← hjoined]

theorem finish (h : Alike s s') (c : Container) :
    Alike (s.finish m verbose c) (s'.finish m verbose c) := by
  rw [Rendering.finish.eq_def, Rendering.finish.eq_def, h.headOpen]
  split
  · exact h
  · split
    · exact h.write _
    · split
      · exact (h.closeHead.note _).writeHead _
      · exact h.writeConstruct _

/-- What becomes of a container that is left is made of its contents as a whole. -/
theorem leave (h : Alike s s') : Alike (s.leave m verbose) (s'.leave m verbose) := by
  have hjoined : ∀ s : Rendering,
      (s.leave m verbose).joined = (s.joined.leave m verbose).joined := by
    rintro ⟨_ | ⟨c, _ | ⟨around, cs⟩⟩, headOpen, calls, log⟩
    · exact (joined_joined _).symm
    · exact (joined_joined _).symm
    · have hc : ∀ s : Rendering, s.finish m verbose c.joined = s.finish m verbose c := fun s => by
        simp only [Rendering.finish, Container.contents_joined]
        rfl
      exact ((alike_joined ⟨around :: cs, headOpen, calls, log⟩).finish c).symm.trans
        (congrArg joined (hc _).symm)
  rw [Alike, hjoined, h, ← hjoined]

/-- **States that are alike stay so**, whatever event comes next. -/
theorem step (h : Alike s s') (e : Event) : Alike (s.step m verbose e) (s'.step m verbose e) := by
  cases e with
  | enter tag => exact h.enter tag
  | leave tag => exact h.leave
  | text t =>
    rw [Rendering.step, Rendering.step, h.insideCode]
    split
    · exact h.write t
    · exact h.writeConstruct _
  | code t => exact h.writeConstruct _
  | html t => exact h.write t
  | inlineHtml t => exact h.writeConstruct _
  | softBreak => exact h.writeConstruct _
  | hardBreak => exact h.writeConstruct _
  | rule => exact h.writeConstruct _
  | taskMarker checked => exact (h.writeConstruct _).write _
  | verbatim t => exact h.write t

theorem run (h : Alike s s') (es : List Event) :
    Alike (s.run m verbose es) (s'.run m verbose es) := by
  induction es generalizing s s' with
  | nil => exact h
  | cons e es ih => exact ih (h.step e)

theorem closeAll (h : Alike s s') (n : Nat) :
    Alike (s.closeAll m verbose n) (s'.closeAll m verbose n) := by
  induction n generalizing s s' with
  | zero => exact h
  | succ n ih => exact ih h.leave

end Alike

/-! ## Pieces of a text -/

theorem alike_write_nil (s : Rendering) : Alike (s.write []) s := by
  rcases s with ⟨_ | ⟨c, cs⟩, _, _, _⟩ <;>
    simp [Alike, joined, write, Container.joined, Container.contents]

theorem alike_write_write (t t' : Text) (s : Rendering) :
    Alike ((s.write t).write t') (s.write (t ++ t')) := by
  rcases s with ⟨_ | ⟨c, cs⟩, _, _, _⟩ <;>
    simp [Alike, joined, write, Container.joined, Container.contents]

theorem alike_note_text (t : Text) (s : Rendering) : Alike (s.note m verbose (.text t)) s := by
  cases verbose <;> simp [Alike, joined, note, Construct.isText]

/-- A text is copied, as a call outside code and as it is within. -/
theorem alike_text (hm : ∀ t, m.text t = t) (t : Text) (s : Rendering) :
    Alike (s.step m verbose (.text t)) (s.write t) := by
  rw [step]
  split
  · rfl
  · have hwrite : s.writeConstruct m verbose (.text t) = (s.note m verbose (.text t)).write t := by
      rw [writeConstruct, Construct.write, hm]
    rw [hwrite]
    exact (alike_note_text t s).write t

/-- Pieces one after the other leave what they leave together. -/
theorem alike_pieces {event : Text → Event}
    (hevent : ∀ (t : Text) (s : Rendering), Alike (s.step m verbose (event t)) (s.write t))
    (pieces : List Text) (s : Rendering) :
    Alike (s.step m verbose (event pieces.flatten)) (s.run m verbose (pieces.map event)) := by
  induction pieces generalizing s with
  | nil => exact (hevent [] s).trans (alike_write_nil s)
  | cons t ts ih =>
    rw [List.map_cons, run_cons, List.flatten_cons]
    calc (s.step m verbose (event (t ++ ts.flatten))).joined
        = (s.write (t ++ ts.flatten)).joined := hevent _ s
      _ = ((s.write t).write ts.flatten).joined := (alike_write_write t _ s).symm
      _ = ((s.step m verbose (event t)).write ts.flatten).joined := ((hevent t s).write _).symm
      _ = ((s.step m verbose (event t)).step m verbose (event ts.flatten)).joined :=
        (hevent _ _).symm
      _ = ((s.step m verbose (event t)).run m verbose (ts.map event)).joined := ih _

/-- **Cutting a text leads to a state that is alike**, in code and outside. -/
theorem alike_of_cut (hm : ∀ t, m.text t = t) {es es' : List Event} (h : Cut es es')
    (s : Rendering) : Alike (s.run m verbose es) (s.run m verbose es') := by
  cases h with
  | text before after pieces =>
    rw [run_append, run_append, run_append, run_cons]
    exact (alike_pieces (alike_text hm) pieces _).run after
  | html before after pieces =>
    have hhtml : ∀ (t : Text) (s : Rendering), Alike (s.step m verbose (.html t)) (s.write t) :=
      fun _ _ => rfl
    rw [run_append, run_append, run_append, run_cons]
    exact (alike_pieces hhtml pieces _).run after

theorem alike_of_sameText (hm : ∀ t, m.text t = t) {es es' : List Event} (h : SameText es es')
    (s : Rendering) : Alike (s.run m verbose es) (s.run m verbose es') := by
  induction h with
  | rel _ _ h => exact alike_of_cut hm h s
  | refl _ => rfl
  | symm _ _ _ ih => exact ih.symm
  | trans _ _ _ _ _ ih ih' => exact ih.trans ih'

end Rendering

end Wiki

/-! ## Code blocks in HTML -/

namespace Html

variable {block : Text → Option Text → Text}

/-- Only the code so far and the tag count of a code block that has not been left. -/
theorem replaceCodeFrom_congr {o o' : OpenCode} (h : o.found = o'.found) (es : List Event) :
    replaceCodeFrom block (some o) es = replaceCodeFrom block (some o') es := by
  induction es generalizing o o' with
  | nil => simp only [replaceCodeFrom, h]
  | cons e es ih =>
    have htext : ∀ t : Text,
        OpenCode.found { o with pieces := t :: o.pieces } =
          OpenCode.found { o' with pieces := t :: o'.pieces } := by
      intro t
      rw [OpenCode.found, OpenCode.found, CodeFound.mk.injEq] at h ⊢
      simpa using h
    cases e with
    | text t => rw [replaceCodeFrom, replaceCodeFrom, ih (htext t)]
    | leave tag => cases tag <;> simp only [replaceCodeFrom, h, ih h]
    | _ => simp only [replaceCodeFrom, ih h]

/-- What is found in streams that begin with the same event depends on what is found in the rest
    of them. -/
theorem found_cons {es es' : List Event}
    (h : ∀ inside, (replaceCodeFrom block inside es).2 = (replaceCodeFrom block inside es').2)
    (e : Event) (inside : Option OpenCode) :
    (replaceCodeFrom block inside (e :: es)).2 = (replaceCodeFrom block inside (e :: es')).2 := by
  cases inside with
  | none =>
    cases e with
    | enter tag => cases tag <;> simp only [replaceCodeFrom, h]
    | _ => simp only [replaceCodeFrom, h]
  | some o =>
    cases e with
    | leave tag => cases tag <;> simp only [replaceCodeFrom, h]
    | _ => simp only [replaceCodeFrom, h]

theorem found_append {es es' : List Event}
    (h : ∀ inside, (replaceCodeFrom block inside es).2 = (replaceCodeFrom block inside es').2)
    (before : List Event) (inside : Option OpenCode) :
    (replaceCodeFrom block inside (before ++ es)).2 =
      (replaceCodeFrom block inside (before ++ es')).2 := by
  induction before generalizing inside with
  | nil => exact h inside
  | cons e before ih => exact found_cons ih e inside

/-- Outside code, text and HTML are passed on; in code, HTML is left out. -/
theorem found_html (pieces : List Text) (es : List Event) (inside : Option OpenCode) :
    (replaceCodeFrom block inside (pieces.map .html ++ es)).2 =
      (replaceCodeFrom block inside es).2 := by
  induction pieces with
  | nil => rfl
  | cons t ts ih =>
    rw [List.map_cons, List.cons_append]
    cases inside <;> exact ih

theorem found_text (pieces : List Text) (es : List Event) :
    (replaceCodeFrom block none (pieces.map .text ++ es)).2 =
      (replaceCodeFrom block none es).2 := by
  induction pieces with
  | nil => rfl
  | cons t ts ih => exact ih

/-- **Cutting a text changes nothing of the code blocks that are found.** -/
theorem found_of_cut (block : Text → Option Text → Text) {es es' : List Event} (h : Cut es es') :
    (replaceCode block es).2 = (replaceCode block es').2 := by
  cases h with
  | text before after pieces =>
    refine found_append (fun inside => ?_) before none
    cases inside with
    | none => exact (found_text pieces after).symm
    | some o =>
      rw [replaceCodeFrom_pieces, replaceCodeFrom]
      refine congrArg Prod.snd (replaceCodeFrom_congr ?_ after)
      simp [OpenCode.found]
  | html before after pieces =>
    refine found_append (fun inside => ?_) before none
    rw [found_html pieces]
    exact found_html [pieces.flatten] after inside

theorem found_of_sameText (block : Text → Option Text → Text) {es es' : List Event}
    (h : SameText es es') :
    (replaceCode block es).2 = (replaceCode block es').2 := by
  induction h with
  | rel _ _ h => exact found_of_cut block h
  | refl _ => rfl
  | symm _ _ _ ih => exact ih.symm
  | trans _ _ _ _ _ ih ih' => exact ih.trans ih'

end Html

/-! ## Whole streams -/

namespace Wiki

open Rendering

/-- **It does not matter into which pieces text is cut.** Streams with the same text, in code and
    outside, and the same HTML are rendered as the same wiki markup. All that is written on the
    way is the same too, the calls for text apart: links that show their address or a text of
    their own, code without its last newline, with its language. The same code blocks are found
    in them for HTML, with the same code and the same tags. -/
theorem render_sameText (settings : Settings) (verbose : Bool) {es es' : List Event}
    (h : SameText es es') :
    (render (jira settings) verbose es).output = (render (jira settings) verbose es').output ∧
      (render (jira settings) verbose es).calls.filter (fun c => !c.construct.isText) =
        (render (jira settings) verbose es').calls.filter (fun c => !c.construct.isText) ∧
      ∀ block, (Html.replaceCode block es).2 = (Html.replaceCode block es').2 := by
  let s := initial.run (jira settings) verbose es
  let s' := initial.run (jira settings) verbose es'
  have hrun : Alike s s' := alike_of_sameText (fun _ => rfl) h initial
  have hclosed : Alike (s.closeAll (jira settings) verbose (s.containers.length - 1))
      (s'.closeAll (jira settings) verbose (s.containers.length - 1)) := hrun.closeAll _
  refine ⟨?_, ?_, fun block => Html.found_of_sameText block h⟩
  · rw [render, render, ← hrun.length_containers]
    exact hclosed.output
  · rw [render, render, ← hrun.length_containers]
    have hcalls := congrArg Rendering.calls hclosed
    simpa [joined] using hcalls

/-- A bare address and a code block, each with its text in two pieces. -/
theorem render_sameText_twice :
    let link : Tag := .link .address "u:v" []
    let code : Tag := .codeBlock (.fenced "sql")
    let es : List Event := [.enter link, .text "u:v", .leave link,
      .enter code, .text "a\nb\n", .leave code]
    let es' : List Event := [.enter link, .text "u:", .text "v", .leave link,
      .enter code, .text "a\nb", .text "\n", .leave code]
    SameText es es' ∧
      (render (jira .default) true es).output = (render (jira .default) true es').output ∧
      (render (jira .default) true es).calls.filter (fun c => !c.construct.isText) =
        (render (jira .default) true es').calls.filter (fun c => !c.construct.isText) ∧
      ∀ block, (Html.replaceCode block es).2 = (Html.replaceCode block es').2 := by
  intro link code es es'
  have hlink : Cut es [.enter link, .text "u:", .text "v", .leave link,
      .enter code, .text "a\nb\n", .leave code] :=
    .text [.enter link] [.leave link, .enter code, .text "a\nb\n", .leave code] ["u:", "v"]
  have hcode : Cut [.enter link, .text "u:", .text "v", .leave link,
      .enter code, .text "a\nb\n", .leave code] es' :=
    .text [.enter link, .text "u:", .text "v", .leave link, .enter code] [.leave code]
      ["a\nb", "\n"]
  have hsame : SameText es es' := .trans _ _ _ (.rel _ _ hlink) (.rel _ _ hcode)
  exact ⟨hsame, render_sameText .default true hsame⟩

end Wiki

end JiraMarkup
