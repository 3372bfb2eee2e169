/-
  The wiki markup and the HTML of a stream have the same code blocks.

  The one is rendered by a stack of containers, which knows a code block by the innermost of
  them; the other takes everything up to the end of a code block at once.

  * `CodeFree` are the states of the stack with no code block open: `CodeFree.step` says what an
    event outside code blocks does to them, `CodeFree.block` what a whole block does, and
    `codeCalls_render` what is written of a stream;
  * `SameCode` is the relation between a code block of the wiki markup and one of the HTML;
  * `codeBlocks_agree`: both have the code blocks of the stream, one for one.
-/
import JiraMarkup.Conversion
import JiraMarkup.Proofs.Html.FoundCode
import JiraMarkup.Proofs.Wiki.TreeRendering
import Mathlib.Data.List.Forall2

namespace JiraMarkup

open Markdown (Block CodeKind Event HoldsCode Node Tag)
open Html (CodeFound replaceCode)

namespace Wiki

variable {m : Markup} {verbose : Bool}

/-! ## Code blocks that are written -/

/-- Whether a construct is a code block. -/
def Construct.isCodeBlock : Construct → Bool
  | .codeBlock _ _ => true
  | _ => false

/-- The construct that a code block becomes. -/
def ofFound (b : CodeFound) : Construct := .codeBlock (dropNewline b.code) b.tag

/-- A container that is no code block becomes no code block. -/
theorem isCodeBlock_of_construct? {headOpen : Bool} {tag : Tag} {contents head : Text}
    {n : Construct} (htag : tag.isCodeBlock = false)
    (hn : construct? headOpen tag contents head = some n) : n.isCodeBlock = false := by
  cases tag with
  | codeBlock kind => cases htag
  | plain => cases hn
  | _ =>
    cases hn
    rfl

namespace Rendering

variable {s s' : Rendering}

/-- The tags of the open containers. -/
def tags (s : Rendering) : List (Option Tag) := s.containers.map Container.tag

/-- The code blocks written so far, in order. -/
def codeCalls (s : Rendering) : List Construct :=
  (s.calls.reverse.map Call.construct).filter Construct.isCodeBlock

/-- `s'` has the open containers and the code blocks of `s`. -/
structure Keeps (s s' : Rendering) : Prop where
  /-- The same containers are open. -/
  tags : s'.tags = s.tags
  /-- No code block has been written. -/
  codeCalls : s'.codeCalls = s.codeCalls

/-- A state between code blocks: no container that is open is one. -/
structure CodeFree (s : Rendering) : Prop where
  /-- The document is open. -/
  tags_ne_nil : s.tags ≠ []
  /-- No code block is. -/
  noCode : ∀ tag, some tag ∈ s.tags → tag.isCodeBlock = false

theorem codeFree_initial : initial.CodeFree := by
  constructor
  · simp [initial, tags]
  · intro tag htag
    simp [initial, tags, Container.ofTag] at htag

/-! ## One event -/

namespace Keeps

theorem trans {s'' : Rendering} (h : s.Keeps s') (h' : s'.Keeps s'') : s.Keeps s'' :=
  ⟨h'.tags.trans h.tags, h'.codeCalls.trans h.codeCalls⟩

theorem codeFree (h : s.Keeps s') (hs : s.CodeFree) : s'.CodeFree :=
  ⟨h.tags ▸ hs.tags_ne_nil, h.tags ▸ hs.noCode⟩

theorem write (t : Text) : s.Keeps (s.write t) := by
  rcases s with ⟨_ | ⟨c, cs⟩, _, _, _⟩ <;> exact ⟨rfl, rfl⟩

theorem writeHead (t : Text) : s.Keeps (s.writeHead t) := by
  rcases s with ⟨_ | ⟨c, cs⟩, _, _, _⟩ <;> exact ⟨rfl, rfl⟩

theorem note {n : Construct} (hn : n.isCodeBlock = false) : s.Keeps (s.note m verbose n) := by
  refine ⟨rfl, ?_⟩
  simp [Rendering.codeCalls, Rendering.note, hn]

theorem writeConstruct {n : Construct} (hn : n.isCodeBlock = false) :
    s.Keeps (s.writeConstruct m verbose n) := (note hn).trans (write _)

/-- A container that has been left and is no code block. -/
theorem finish {c : Container} (hc : c.isCodeBlock = false) : s.Keeps (s.finish m verbose c) := by
  rw [Rendering.finish.eq_def]
  split
  · exact ⟨rfl, rfl⟩
  · next tag htag =>
    have hcode : tag.isCodeBlock = false := by simpa [Container.isCodeBlock, htag] using hc
    split
    · exact write _
    · next n hn =>
      have hn := isCodeBlock_of_construct? hcode hn
      split
      · have hclosed : s.Keeps { s with headOpen := false } := ⟨rfl, rfl⟩
        exact hclosed.trans ((note hn).trans (writeHead _))
      · exact writeConstruct hn

end Keeps

/-- Leaving a container where no code block is open. -/
theorem CodeFree.leave (m : Markup) (verbose : Bool) (hs : s.CodeFree) :
    (s.leave m verbose).CodeFree ∧ (s.leave m verbose).codeCalls = s.codeCalls := by
  obtain ⟨_ | ⟨c, _ | ⟨around, cs⟩⟩, headOpen, calls, log⟩ := s
  · exact ⟨hs, rfl⟩
  · exact ⟨hs, rfl⟩
  · have hc : c.isCodeBlock = false := by
      rcases htag : c.tag with _ | tag
      · simp [Container.isCodeBlock, htag]
      · have hcode := hs.noCode tag (by simp [tags, htag])
        simp [Container.isCodeBlock, htag, hcode]
    have hleft : CodeFree ⟨around :: cs, headOpen, calls, log⟩ :=
      ⟨by simp [tags], fun tag htag => hs.noCode tag (List.mem_cons_of_mem _ htag)⟩
    have hfinish : Keeps ⟨around :: cs, headOpen, calls, log⟩
      (Rendering.finish m verbose c ⟨around :: cs, headOpen, calls, log⟩) := .finish hc
    exact ⟨hfinish.codeFree hleft, hfinish.codeCalls⟩

/-- Entering a container that is no code block. -/
theorem CodeFree.enter (hs : s.CodeFree) {tag : Tag} (htag : tag.isCodeBlock = false) :
    (s.enter tag).CodeFree := by
  refine ⟨by simp [tags, Rendering.enter], fun tag' hmem => ?_⟩
  rcases List.mem_cons.1 hmem with heq | hmem
  · cases heq
    exact htag
  · exact hs.noCode tag' hmem

/-- **An event outside code blocks writes none**, and leaves no code block open. -/
theorem CodeFree.step (m : Markup) (verbose : Bool) (hs : s.CodeFree) {e : Event}
    (he : ∀ kind, e ≠ .enter (.codeBlock kind)) :
    (s.step m verbose e).CodeFree ∧ (s.step m verbose e).codeCalls = s.codeCalls := by
  have hkeeps : ∀ {s'}, s.Keeps s' → s'.CodeFree ∧ s'.codeCalls = s.codeCalls :=
    fun h => ⟨h.codeFree hs, h.codeCalls⟩
  cases e with
  | enter tag =>
    have htag : tag.isCodeBlock = false := by
      cases tag with
      | codeBlock kind => exact absurd rfl (he kind)
      | _ => rfl
    exact ⟨hs.enter htag, rfl⟩
  | leave tag => exact hs.leave m verbose
  | text t =>
    rw [Rendering.step]
    split
    · exact hkeeps (.write t)
    · exact hkeeps (.writeConstruct rfl)
  | code t => exact hkeeps (.writeConstruct rfl)
  | html t => exact hkeeps (.write t)
  | inlineHtml t => exact hkeeps (.writeConstruct rfl)
  | softBreak => exact hkeeps (.writeConstruct rfl)
  | hardBreak => exact hkeeps (.writeConstruct rfl)
  | rule => exact hkeeps (.writeConstruct rfl)
  | taskMarker checked => exact hkeeps ((Keeps.writeConstruct rfl).trans (.write _))
  | verbatim t => exact hkeeps (.write t)

/-! ## Streams -/

/-- A whole code block is written as one construct, after all that was there before. -/
theorem CodeFree.block (m : Markup) (verbose : Bool) (hs : s.CodeFree) (kind kind' : CodeKind)
    (pieces : List Text) :
    let es := .enter (.codeBlock kind) :: (pieces.map .text ++ [.leave (.codeBlock kind')])
    (s.run m verbose es).CodeFree ∧
      (s.run m verbose es).codeCalls = s.codeCalls ++ [ofFound ⟨pieces.flatten, kind.tag?⟩] := by
  have hne : s.containers ≠ [] := fun hnil => hs.tags_ne_nil (by rw [tags, hnil]; rfl)
  obtain ⟨ps, -, hrun⟩ : Adds m verbose _ s (s.run m verbose
      (.enter (.codeBlock kind) :: (pieces.map .text ++ [.leave (.codeBlock kind)]))) :=
    .within hne (by simp) (fun _ => rfl) (adds_codePieces pieces rfl)
  intro es
  have hadd : s.run m verbose es = s.add m verbose ps [ofFound ⟨pieces.flatten, kind.tag?⟩] := by
    rw [run_cons, run_append] at hrun ⊢
    exact hrun
  have htags : (s.run m verbose es).tags = s.tags := by
    rw [hadd]
    rcases s with ⟨_ | ⟨c, cs⟩, _, _, _⟩ <;> rfl
  refine ⟨⟨htags ▸ hs.tags_ne_nil, htags ▸ hs.noCode⟩, ?_⟩
  rw [hadd]
  simp [codeCalls, add, ofFound, Construct.isCodeBlock]

/-- **The code blocks of a stream are written**, in their order. -/
theorem CodeFree.run (m : Markup) (verbose : Bool) (hs : s.CodeFree) {es : List Event}
    {found : List CodeFound} (h : HoldsCode es found) :
    (s.run m verbose es).CodeFree ∧
      (s.run m verbose es).codeCalls = s.codeCalls ++ found.map ofFound := by
  induction h generalizing s with
  | nil => exact ⟨hs, by simp⟩
  | @other e es found he _ ih =>
    obtain ⟨hfree, hcalls⟩ := hs.step m verbose he
    rw [run_cons, ← hcalls]
    exact ih hfree
  | @block kind kind' pieces es found _ ih =>
    obtain ⟨hfree, hcalls⟩ := hs.block m verbose kind kind' pieces
    have hsplit :
        .enter (.codeBlock kind) :: (pieces.map .text ++ .leave (.codeBlock kind') :: es) =
          .enter (.codeBlock kind) :: (pieces.map .text ++ [.leave (.codeBlock kind')]) ++ es := by
      simp
    rw [hsplit, run_append, List.map_cons, List.append_cons s.codeCalls, ← hcalls]
    exact ih hfree

/-- Containers that are left at the end of a stream are no code blocks. -/
theorem CodeFree.closeAll (hs : s.CodeFree) (n : Nat) :
    (s.closeAll m verbose n).codeCalls = s.codeCalls := by
  induction n generalizing s with
  | zero => rfl
  | succ n ih =>
    obtain ⟨hfree, hcalls⟩ := hs.leave m verbose
    rw [Rendering.closeAll, ih hfree, hcalls]

end Rendering

/-- The code blocks that are written of a stream are those of the stream. -/
theorem codeCalls_render (m : Markup) (verbose : Bool) {es : List Event} {found : List CodeFound}
    (h : HoldsCode es found) :
    ((render m verbose es).calls.map Call.construct).filter Construct.isCodeBlock =
      found.map ofFound := by
  obtain ⟨hfree, hcalls⟩ := Rendering.codeFree_initial.run m verbose h
  exact (hfree.closeAll _).trans hcalls

/-! ## Agreement -/

/-- A code block as it is written in wiki markup, and as it is found for HTML: with the same tag,
    and without the newline at the end of the code, if there is one. -/
def SameCode : Construct → CodeFound → Prop
  | .codeBlock code lang, b =>
    lang = b.tag ∧ (b.code = code ++ ['\n'] ∨ b.code = code ∧ ¬ ['\n'] <:+ code)
  | _, _ => False

theorem sameCode_ofFound (b : CodeFound) : SameCode (ofFound b) b := by
  refine ⟨rfl, ?_⟩
  rw [dropNewline]
  split
  · next h => exact .inl (List.dropLast_append_getLast? _ h).symm
  · next h =>
    refine .inr ⟨rfl, ?_⟩
    rintro ⟨t, ht⟩
    rw [← ht, List.getLast?_concat] at h
    exact h rfl

/-- **The wiki markup and the HTML of a stream have the same code blocks.** Those that are found
    for HTML are the code blocks of the stream, and those written in wiki markup are the same, one
    for one: with the same tags, and with the same code but for one newline at its end. -/
theorem codeBlocks_agree (m : Markup) (verbose : Bool) (block : Text → Option Text → Text)
    {es : List Event} {blocks : List CodeFound} (h : HoldsCode es blocks) :
    (replaceCode block es).2 = blocks ∧
      List.Forall₂ SameCode
        (((render m verbose es).calls.map Call.construct).filter Construct.isCodeBlock)
        (replaceCode block es).2 := by
  have hfound : (replaceCode block es).2 = blocks := Html.found_of_holdsCode block h
  refine ⟨hfound, ?_⟩
  rw [codeCalls_render m verbose h, hfound, List.forall₂_map_left_iff, List.forall₂_same]
  exact fun b _ => sameCode_ofFound b

/-- Code blocks in a list and in a quote, one of them with a tag. -/
theorem codeBlocks_agree_nested :
    let es := Markdown.readEvents "- a\n\n  ```sql x\n  b\n  ```\n\n> c\n>\n>     d\n>     e\n"
    let blocks : List CodeFound :=
      [⟨"b\n".toList, some "sql".toList⟩, ⟨"d\ne\n".toList, none⟩]
    HoldsCode es blocks ∧ ∀ block, (replaceCode block es).2 = blocks ∧
      List.Forall₂ SameCode
        (((render (jira .default) true es).calls.map Call.construct).filter Construct.isCodeBlock)
        (replaceCode block es).2 := by
  intro es blocks
  have hblocks : Node.codeBlocksAll (Block.nodesAll (Markdown.read
      "- a\n\n  ```sql x\n  b\n  ```\n\n> c\n>\n>     d\n>     e\n")) = blocks := by decide +kernel
  have hholds : HoldsCode es blocks := by
    rw [← hblocks]
    exact Markdown.holdsCode_events _
  exact ⟨hholds, fun block => codeBlocks_agree (jira .default) true block hholds⟩

end Wiki

end JiraMarkup
