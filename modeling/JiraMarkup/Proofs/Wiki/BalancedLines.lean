/-
  The code blocks in the marked lines of a document.

  * `Balanced` lines have code blocks one after another, each with a line that opens it, the
    lines of its code, and a line that closes it;
  * putting renderings together, trimming them and making lists of them keeps this, so that
    `Marked.balanced_ofBlocks` holds of every document whose code does not open a block.
-/
import JiraMarkup.Proofs.Wiki.ChangedLines

namespace JiraMarkup.Wiki

open Markdown (Inline Block)

/-- Lines with whole code blocks among them. -/
inductive Balanced : List MarkedLine → Prop where
  | nil : Balanced []
  | plain (l : Text) {ls : List MarkedLine} : Balanced ls → Balanced ((.plain, l) :: ls)
  | block {header closer : Text} {code : List Text} {ls : List MarkedLine} :
    openingWord <:+: header → (∀ l ∈ code, ¬ openingWord <:+: l) → closingWord <:+: closer →
      Balanced ls →
      Balanced ((.header, header) :: (code.map (.body, ·) ++ (.closer, closer) :: ls))

namespace Balanced

variable {as bs ls : List MarkedLine}

theorem append (ha : Balanced as) (hb : Balanced bs) : Balanced (as ++ bs) := by
  induction ha with
  | nil => exact hb
  | plain l _ ih => exact .plain l ih
  | block hh hcode hc _ ih =>
    rw [List.cons_append, List.append_assoc, List.cons_append]
    exact .block hh hcode hc ih

/-- Text in front of the first line. -/
theorem glue {k : LineKind} {l : Text} (t : Text) (h : Balanced ((k, l) :: ls)) :
    Balanced ((k, t ++ l) :: ls) := by
  generalize hls : (k, l) :: ls = as at h
  cases h with
  | nil => cases hls
  | plain l' h =>
    cases hls
    exact .plain _ h
  | block hh hcode hc h =>
    cases hls
    exact .block (List.infix_append_of_infix_right hh) hcode hc h

theorem trimFront (h : Balanced ls) : Balanced (Text.trimFront ls) := by
  induction h with
  | nil => exact .nil
  | @plain l ls h ih =>
    rw [Text.trimFront]
    split
    · exact ih
    · exact .plain _ h
  | @block header closer code ls hh hcode hc h _ =>
    have hfront : openingWord <:+: header.dropWhile isWhite :=
      infix_dropWhile (a := '\x7b') (by decide) hh
    have hne : header.dropWhile isWhite ≠ [] := by
      intro hnil
      rw [hnil] at hfront
      exact absurd hfront (by decide)
    rw [Text.trimFront, if_neg hne]
    exact .block hfront hcode hc h

theorem trimBack_append (hbs : Text.trimBack bs ≠ []) :
    Text.trimBack (as ++ bs) = as ++ Text.trimBack bs := by
  induction as with
  | nil => rfl
  | cons a as ih =>
    have hne : as ++ Text.trimBack bs ≠ [] := by simp [hbs]
    rw [List.cons_append, Text.trimBack, ih, if_neg hne, List.cons_append]

theorem trimBack (h : Balanced ls) : Balanced (Text.trimBack ls) := by
  induction h with
  | nil => exact .nil
  | @plain l ls h ih =>
    rw [Text.trimBack]
    split_ifs
    · exact .nil
    · exact .plain _ .nil
    · exact .plain _ ih
  | @block header closer code ls hh hcode hc _ ih =>
    -- The line that closes the block is not white, so that trimming stops there at the latest.
    obtain ⟨closer', hc', hback⟩ : ∃ closer', closingWord <:+: closer' ∧
        Text.trimBack ((.closer, closer) :: ls) = (.closer, closer') :: Text.trimBack ls := by
      have hback : closingWord <:+: Text.trimEndWith isWhite closer :=
        infix_trimEndWith (w := "\x7bcode".toList) (a := '\x7d') (by decide) hc
      have hne : Text.trimEndWith isWhite closer ≠ [] := by
        intro hnil
        rw [hnil] at hback
        exact absurd hback (by decide)
      by_cases hls : Text.trimBack ls = []
      · exact ⟨_, hback, by rw [Text.trimBack, if_pos hls, if_neg hne, hls]⟩
      · exact ⟨_, hc, by rw [Text.trimBack, if_neg hls]⟩
    rw [← List.cons_append, trimBack_append (by rw [hback]; simp), hback]
    exact .block hh hcode hc' ih

theorem filter (h : Balanced ls) : Balanced (ls.filter fun l => !l.2.isEmpty) := by
  induction h with
  | nil => exact .nil
  | plain l _ ih =>
    rw [List.filter_cons]
    split
    · exact .plain l ih
    · exact ih
  | @block header closer code ls hh hcode hc _ ih =>
    have hheader : header ≠ [] := fun hnil => absurd (hnil ▸ hh) (by decide)
    have hcloser : closer ≠ [] := fun hnil => absurd (hnil ▸ hc) (by decide)
    have hbody : (code.map fun l => (LineKind.body, l)).filter (fun l => !l.2.isEmpty) =
        (code.filter fun l => !l.isEmpty).map (.body, ·) := by
      rw [List.filter_map]; rfl
    rw [List.filter_cons_of_pos (by simpa using hheader), List.filter_append, hbody,
      List.filter_cons_of_pos (by simpa using hcloser)]
    exact .block hh (fun l hl => hcode l (List.mem_of_mem_filter hl)) hc ih

theorem map {f : Text → Text} (hopen : ∀ l, openingWord <:+: f l ↔ openingWord <:+: l)
    (hclose : ∀ l, closingWord <:+: l → closingWord <:+: f l) (h : Balanced ls) :
    Balanced (ls.map fun l => (l.1, f l.2)) := by
  induction h with
  | nil => exact .nil
  | plain l _ ih => exact .plain _ ih
  | @block header closer code ls hh hcode hc _ ih =>
    have hbody : (code.map fun l => (LineKind.body, l)).map (fun l => (l.1, f l.2)) =
        (code.map f).map (.body, ·) := by
      rw [List.map_map, List.map_map]; rfl
    rw [List.map_cons, List.map_append, hbody, List.map_cons]
    refine .block ((hopen _).2 hh) (List.forall_mem_map.2 fun l hl => ?_) (hclose _ hc) ih
    exact (hopen l).not.2 (hcode l hl)

theorem of_plain (ts : List Text) : Balanced (ts.map (.plain, ·)) := by
  induction ts with
  | nil => exact .nil
  | cons t ts ih => exact .plain t ih

end Balanced

/-! ## Documents -/

mutual

/-- The code in the code blocks of a block. -/
def codeBodies : Block (List Inline) → List Text
  | .code _ pieces => [dropNewline pieces.flatten]
  | .quote inner => codeBodiesAll inner
  | .list _ items => codeBodiesItems items
  | .plainGroup inner => codeBodiesAll inner
  | .paragraph _ | .plain _ | .heading .. | .html _ | .table .. | .rule => []

/-- The code in the code blocks of a document. -/
def codeBodiesAll : List (Block (List Inline)) → List Text
  | [] => []
  | b :: bs => codeBodies b ++ codeBodiesAll bs

/-- The code in the code blocks of the items of a list. -/
def codeBodiesItems : List (List (Block (List Inline))) → List Text
  | [] => []
  | i :: is => codeBodiesAll i ++ codeBodiesItems is

end

namespace Marked

theorem balanced_ofText (t : Text) : Balanced (ofText t).ended := .of_plain _

theorem balanced_append {a b : Marked} (ha : Balanced a.ended) (hb : Balanced b.ended) :
    Balanced (a ++ b).ended := by
  obtain ⟨_ | ⟨⟨k, l⟩, ls⟩, r⟩ := b
  · exact ha
  · exact ha.append (hb.glue a.rest)

theorem balanced_code (settings : Settings) {c : Text} (lang : Option Text)
    (hcode : ¬ openingWord <:+: c) : Balanced (code settings c lang).ended :=
  .block (openingWord_infix_codeHeader settings c lang)
    (fun _ hl hm => hcode (hm.trans (Text.infix_of_mem_lines hl))) (List.infix_refl _)
    (.plain [] .nil)

theorem balanced_list {body : Marked} (h : Balanced body.ended) (ordered : Bool) :
    Balanced (body.list ordered).ended := by
  have hlines : Balanced body.lines := h.append (.plain _ .nil)
  have hlist : Balanced (body.listLines ordered) :=
    hlines.trimFront.trimBack.filter.map
      (fun l => infix_mergeBullets_marker (a := '\x7b') (by decide) ordered l)
      fun l => (infix_mergeBullets_marker (a := '\x7b') (by decide) ordered l).2
  refine .append (.plain _ ?_) (.plain _ .nil)
  split
  · exact .plain _ .nil
  · exact hlist

mutual

theorem balanced_ofBlock (settings : Settings) : ∀ b : Block (List Inline),
    (∀ c ∈ codeBodies b, ¬ openingWord <:+: c) → Balanced (ofBlock settings b).ended
  | .code kind pieces, h => balanced_code settings kind.tag? (h _ (List.mem_singleton_self _))
  | .quote inner, h => by
    have hinner := balanced_ofBlocks settings inner h
    exact balanced_append (balanced_append (balanced_ofText _) hinner) (balanced_ofText _)
  | .list _ items, h => balanced_list (balanced_ofItems settings items h) _
  | .plainGroup inner, h => balanced_ofBlocks settings inner h
  | .paragraph _, _ => balanced_ofText _
  | .plain _, _ => balanced_ofText _
  | .heading _ _, _ => balanced_ofText _
  | .html _, _ => balanced_ofText _
  | .table _ _ _, _ => balanced_ofText _
  | .rule, _ => balanced_ofText _

/-- **The lines of a document have whole code blocks among them**, if no code has the word in it
    that opens one. -/
theorem balanced_ofBlocks (settings : Settings) : ∀ bs : List (Block (List Inline)),
    (∀ c ∈ codeBodiesAll bs, ¬ openingWord <:+: c) → Balanced (ofBlocks settings bs).ended
  | [], _ => balanced_ofText []
  | b :: bs, h => by
    rw [codeBodiesAll, List.forall_mem_append] at h
    have hb := balanced_ofBlock settings b h.1
    exact balanced_append hb (balanced_ofBlocks settings bs h.2)

theorem balanced_ofItems (settings : Settings) : ∀ is : List (List (Block (List Inline))),
    (∀ c ∈ codeBodiesItems is, ¬ openingWord <:+: c) → Balanced (ofItems settings is).ended
  | [], _ => balanced_ofText []
  | i :: is, h => by
    rw [codeBodiesItems, List.forall_mem_append] at h
    have hi := balanced_append (balanced_ofBlocks settings i h.1) (balanced_ofText "\n")
    exact balanced_append hi (balanced_ofItems settings is h.2)

end

end Marked

end JiraMarkup.Wiki
