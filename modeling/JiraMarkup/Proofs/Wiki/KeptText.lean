/-
  No text is lost: what a document shows comes out of its rendering in the same order, white
  space apart.

  * `inked_sublist_list`: a list keeps the text of its body, though lines are trimmed and left
    out, and bullets are joined;
  * `Node.inked_shown` follows the recursion on trees, over every construct of the markup;
  * `hashless_sublist_repair`: the repairs lose nothing but number signs and white space;
  * `inked_shownText_sublist` puts the three together for streams of trees and for conversions.
-/
import JiraMarkup.Conversion
import JiraMarkup.Proofs.Markdown.ShownText
import JiraMarkup.Proofs.Text.Inked
import JiraMarkup.Proofs.Wiki.MarkedLines
import JiraMarkup.Proofs.Wiki.RepairScan
import JiraMarkup.Proofs.Wiki.TreeRendering

namespace JiraMarkup

open Markdown (Inline Block HtmlPiece Wrapper Node renderedCell renderedRow shownRow shownText)

/-! ## Lists -/

namespace Wiki

theorem filter_mergeRounds {p : Char → Bool} (hspace : p ' ' = false) (n : Nat) (line : Text) :
    (mergeRounds n line).filter p = line.filter p := by
  induction n generalizing line with
  | zero => rfl
  | succ n ih =>
    rw [mergeRounds]
    split
    · next merged h =>
      obtain ⟨stars, rest, -, rfl, rfl⟩ := mergeBullet?_eq_some h
      rw [ih]
      simp [hspace]
    · rfl

/-- A line of a list keeps the text of its line in the body. -/
theorem inked_sublist_mergeBullets (ordered : Bool) (l : Text) :
    List.Sublist (inked l) (mergeBullets (marker ordered :: ' ' :: l)) := by
  have hmerge : inked (mergeBullets (marker ordered :: ' ' :: l)) =
      inked (marker ordered :: ' ' :: l) := filter_mergeRounds (by decide) _ _
  have hline : List.Sublist (inked l) (inked (marker ordered :: ' ' :: l)) :=
    (((List.Sublist.refl l).cons ' ').cons (marker ordered)).filter _
  rw [← hmerge] at hline
  exact hline.trans (inked_sublist _)

/-- **A list keeps the text of its body.** -/
theorem inked_sublist_list (body : Text) (ordered : Bool) :
    List.Sublist (inked body) (list body ordered) := by
  let ls := Text.filled (Text.lines (Text.trimWhite body))
  have hnl : (!isWhite '\n') = false := by decide
  have hbody : inked body = ls.flatMap inked := by
    rw [← Text.inked_trimWhite, inked, Text.filter_eq_flatMap_lines hnl]
    exact (Text.flatMap_filled inked rfl _).symm
  have hlines : inked (Text.unlines (listLines body ordered)) =
      ls.flatMap fun l => inked (mergeBullets (marker ordered :: ' ' :: l)) := by
    rw [inked, Text.filter_unlines hnl, listLines, List.flatMap_map]
    rfl
  have hkept : List.Sublist (inked body) (inked (Text.unlines (listLines body ordered))) := by
    rw [hbody, hlines]
    refine .flatMap_right ls fun l _ => ?_
    have h := (inked_sublist_mergeBullets ordered l).filter fun c => !isWhite c
    exact inked_inked l ▸ h
  unfold list
  exact (hkept.trans (inked_sublist _)).trans (List.infix_append _ _ _).sublist

/-! ## Repairs -/

/-- A text without its white space and its number signs. -/
def hashless (t : Text) : Text := (inked t).filter (· != '#')

section
variable {p : Char → Bool} (hhash : p '#' = false) (hspace : p ' ' = false)

include hhash

theorem filter_dropHash (l : Text) : (dropHash l).filter p = l.filter p := by
  rw [dropHash.eq_def]
  split
  · rw [List.filter_cons_of_neg (by simp [hhash])]
  · rfl

include hspace

theorem filter_dropMarks (l : Text) : (dropMarks l).filter p = l.filter p := by
  induction l using dropMarks.induct with
  | case1 t ih =>
    rw [dropMarks, ih, List.filter_cons_of_neg (by simp [hhash]),
      List.filter_cons_of_neg (by simp [hspace])]
  | case2 c t hne ih =>
    rw [dropMarks.eq_2 c t hne, List.filter_cons, List.filter_cons, ih]
  | case3 => rfl

theorem filter_clearLine (inCode : Bool) (l : Text) :
    (clearLine inCode l).filter p = l.filter p := by
  rw [clearLine]
  split_ifs
  · exact filter_dropHash hhash l
  · rfl
  · exact filter_dropMarks hhash hspace l

theorem flatMap_filter_clearLines (inCode : Bool) (ls : List Text) :
    (clearLines inCode ls).flatMap (fun l => l.filter p) = ls.flatMap fun l => l.filter p := by
  induction ls generalizing inCode with
  | nil => rfl
  | cons l ls ih =>
    rw [clearLines_cons, List.flatMap_cons, List.flatMap_cons, filter_clearLine hhash hspace, ih]

end

theorem sublist_escapePairs (l : Text) : List.Sublist l (escapePairs l) := by
  induction l using escapePairs.induct with
  | case1 t ih =>
    rw [escapePairs]
    exact ((ih.cons_cons '_').cons '\\' |>.cons_cons '_').cons '\\'
  | case2 c t hne ih =>
    rw [escapePairs.eq_2 c t hne]
    exact ih.cons_cons c
  | case3 => exact .refl _

theorem forall₂_sublist_escapeLines (inCode : Bool) (ls : List Text) :
    List.Forall₂ List.Sublist ls (escapeLines inCode ls) := by
  induction ls generalizing inCode with
  | nil => exact .nil
  | cons l ls ih =>
    rw [escapeLines_cons]
    refine .cons ?_ (ih _)
    rw [escapeLine]
    split
    · exact .refl _
    · exact sublist_escapePairs l

/-- The second pass loses nothing. -/
theorem sublist_escapeOutsideCode (t : Text) : List.Sublist t (escapeOutsideCode t) := by
  have h := Text.unlines_sublist (forall₂_sublist_escapeLines false (Text.lines t))
  rwa [Text.unlines_lines] at h

/-- **The repairs lose nothing but number signs and white space.** -/
theorem hashless_sublist_repair (t : Text) : List.Sublist (hashless t) (repair t) := by
  let p : Char → Bool := fun c => c != '#' && !isWhite c
  have hfilter : ∀ u, hashless u = u.filter p := fun u => List.filter_filter ..
  have hnl : p '\n' = false := by decide
  have hclear : (clearListMarks t).filter p = t.filter p := by
    rw [clearListMarks, Text.filter_unlines hnl,
      flatMap_filter_clearLines (by decide) (by decide), ← Text.filter_eq_flatMap_lines hnl]
  rw [hfilter, ← hclear, repair]
  exact List.filter_sublist.trans (sublist_escapeOutsideCode _)

end Wiki

/-! ## Trees -/

namespace Markdown

open Wiki (jira linkText dropNewline Written)
open Wiki.Written (concat)

variable {settings : Settings} {a : Written} {t : Text}

/-- A link that shows its address only has no other text in it. -/
theorem inked_sublist_link (settings : Settings) (h : List.Sublist (inked t) a.output)
    (kind : LinkKind) (target : Text) :
    List.Sublist (inked t) ((jira settings).link target (linkText kind target a.output)) := by
  rw [linkText]
  split
  · next hbare =>
    have htarget : List.Sublist a.output target := by
      rw [Bool.or_eq_true, Bool.and_eq_true, beq_iff_eq, List.isEmpty_iff] at hbare
      rcases hbare with hnil | ⟨-, heq⟩
      · rw [hnil]
        exact List.nil_sublist _
      · rw [heq]
    exact (h.trans htarget).trans (List.infix_append _ _ _).sublist
  · have hshown : List.Sublist a.output ("[".toList ++ a.output ++ "|".toList) :=
      (List.infix_append _ _ _).sublist
    refine (h.trans hshown).trans ?_
    exact (List.sublist_append_left _ target).trans (List.sublist_append_left _ _)

/-- A wrapper keeps the text that it shows. -/
theorem Wrapper.inked_shown (w : Wrapper) (h : List.Sublist (inked t) a.output) :
    List.Sublist (inked (w.shown t)) (w.enclose (jira settings) a).output := by
  have hbetween : ∀ front back : Text, List.Sublist (inked t) (front ++ a.output ++ back) :=
    fun front back => h.trans (List.infix_append front _ back).sublist
  cases w with
  | paragraph => exact hbetween [] _
  | heading level => exact hbetween _ _
  | quote => exact hbetween _ _
  | list start => exact inked_sublist_trans h (Wiki.inked_sublist_list _ _)
  | item => exact hbetween [] _
  | emphasis => exact hbetween _ _
  | strong => exact hbetween _ _
  | strikethrough => exact hbetween _ _
  | link kind target title => exact inked_sublist_link settings h kind target
  | image target title => exact List.nil_sublist _
  | plain => exact h

mutual

theorem Inline.inked_shown (settings : Settings) : ∀ i : Inline,
    List.Sublist (inked i.shown) (i.rendered (jira settings)).output
  | .text t => inked_sublist t
  | .code t => (inked_sublist t).trans (List.infix_append _ _ _).sublist
  | .html t => inked_sublist t
  | .softBreak => List.nil_sublist _
  | .hardBreak => List.nil_sublist _
  | .taskMarker _ => List.nil_sublist _
  | .emphasis inner => Wrapper.inked_shown .emphasis (Inline.inked_shownAll settings inner)
  | .strong inner => Wrapper.inked_shown .strong (Inline.inked_shownAll settings inner)
  | .strikethrough inner =>
    Wrapper.inked_shown .strikethrough (Inline.inked_shownAll settings inner)
  | .link kind target title inner =>
    Wrapper.inked_shown (.link kind target title) (Inline.inked_shownAll settings inner)
  | .image _ _ _ => List.nil_sublist _
  | .plainSpan inner => Inline.inked_shownAll settings inner

/-- Running text keeps the text that it shows. -/
theorem Inline.inked_shownAll (settings : Settings) : ∀ is : List Inline,
    List.Sublist (inked (Inline.shownAll is)) (Inline.renderedAll (jira settings) is).output
  | [] => List.nil_sublist _
  | i :: is => by
    rw [Inline.shownAll, Inline.renderedAll, inked_append]
    exact (Inline.inked_shown settings i).append (Inline.inked_shownAll settings is)

end

/-- A row of cells keeps the text that it shows. -/
theorem inked_shownRow (settings : Settings) (header : Bool) (cells : List (List Inline)) :
    List.Sublist (inked (shownRow cells)) (renderedRow (jira settings) header cells).output := by
  have hcell : ∀ c ∈ cells, List.Sublist (inked (Inline.shownAll c))
      (renderedCell (jira settings) header c).output := fun c _ =>
    (Inline.inked_shownAll settings c).trans (List.sublist_append_right _ _)
  have hcells := inked_flatMap_sublist cells hcell
  have hout : (renderedRow (jira settings) header cells).output =
      cells.flatMap (fun c => (renderedCell (jira settings) header c).output) ++ "\n".toList := by
    rw [renderedRow, Written.output_enclose, Written.output_concat, List.flatMap_map]
    rfl
  rw [hout]
  exact hcells.trans (List.sublist_append_left _ _)

/-- A code block keeps its code, but for a newline at the end. -/
theorem inked_sublist_code (settings : Settings) (pieces : List Text) (tag : Option Text) :
    List.Sublist (inked pieces.flatten)
      ((jira settings).codeBlock (dropNewline pieces.flatten) tag) := by
  have hcode : List.Sublist (inked pieces.flatten) (dropNewline pieces.flatten) := by
    rw [dropNewline]
    split
    · next hlast =>
      obtain ⟨code, hcode⟩ := List.getLast?_eq_some_iff.1 hlast
      rw [hcode, List.dropLast_concat, inked_append, show inked ['\n'] = [] from rfl,
        List.append_nil]
      exact inked_sublist code
    · exact inked_sublist _
  exact hcode.trans (List.infix_append _ _ _).sublist

/-- A block of HTML is copied. -/
theorem Node.output_html (settings : Settings) (pieces : List HtmlPiece) :
    (Node.rendered (jira settings) (.html pieces)).output = pieces.flatMap HtmlPiece.text := by
  have hpieces : (concat (pieces.map (HtmlPiece.rendered (jira settings)))).output =
      pieces.flatMap HtmlPiece.text := by
    rw [Written.output_concat, List.flatMap_map]
    exact List.flatMap_congr fun p _ => by cases p <;> rfl
  exact hpieces

mutual

theorem Node.inked_shown (settings : Settings) : ∀ n : Node,
    List.Sublist (inked n.shown) (n.rendered (jira settings)).output
  | .inline i => Inline.inked_shown settings i
  | .rule => List.nil_sublist _
  | .verbatim _ => List.nil_sublist _
  | .within w inner => Wrapper.inked_shown w (Node.inked_shownAll settings inner)
  | .code kind pieces => inked_sublist_code settings pieces kind.tag?
  | .html pieces => by
    rw [Node.output_html]
    exact inked_sublist _
  | .table _ head rows => by
    have hhead := inked_shownRow settings true head
    have hrows := inked_flatMap_sublist rows fun r _ => inked_shownRow settings false r
    have hout : (concat (rows.map (renderedRow (jira settings) false))).output =
        rows.flatMap fun r => (renderedRow (jira settings) false r).output := by
      rw [Written.output_concat, List.flatMap_map]
    rw [← hout] at hrows
    rw [Node.shown, inked_append]
    exact (hhead.append hrows).trans (List.sublist_append_left _ _)

/-- **Trees keep the text that they show**, whatever is rendered around it. -/
theorem Node.inked_shownAll (settings : Settings) : ∀ ns : List Node,
    List.Sublist (inked (Node.shownAll ns)) (Node.renderedAll (jira settings) ns).output
  | [] => List.nil_sublist _
  | n :: ns => by
    rw [Node.shownAll, Node.renderedAll, inked_append]
    exact (Node.inked_shown settings n).append (Node.inked_shownAll settings ns)

end

end Markdown

/-! ## Conversions -/

namespace Wiki

/-- Text that is kept in a rendering is kept in its repair, number signs apart. -/
theorem hashless_sublist_of_inked {t out : Text} (h : List.Sublist (inked t) out) :
    List.Sublist (hashless t) (repair out) := by
  have hout : List.Sublist (inked (inked t)) (inked out) := h.filter _
  rw [inked_inked] at hout
  exact (hout.filter _).trans (hashless_sublist_repair out)

/-- **No text is lost or put in another order.** What the stream of any trees carries outside
    images is in their rendering, character after character, and after the repairs it still is
    but for number signs; white space does not count. So it is for the conversion of any
    Markdown text. -/
theorem inked_shownText_sublist (settings : Settings) :
    (∀ (verbose : Bool) (ns : List Node),
      let text := shownText 0 (Node.eventsAll ns)
      let out := (render (jira settings) verbose (Node.eventsAll ns)).output
      List.Sublist (inked text) out ∧
        List.Sublist ((inked text).filter (· != '#')) (repair out)) ∧
    ∀ t : Text,
      let text := shownText 0 (Markdown.readEvents (Text.normalizeLineEndings t))
      List.Sublist (inked text) (renderWiki (Text.normalizeLineEndings t) settings).output ∧
        List.Sublist ((inked text).filter (· != '#')) (convert t settings).output := by
  have htrees : ∀ (verbose : Bool) (ns : List Node),
      List.Sublist (inked (shownText 0 (Node.eventsAll ns)))
        (render (jira settings) verbose (Node.eventsAll ns)).output := by
    intro verbose ns
    rw [Markdown.shownText_eventsAll,
      render_of_adds (Node.adds_eventsAll (jira settings) verbose ns takesText_initial rfl)]
    exact Node.inked_shownAll settings ns
  refine ⟨fun verbose ns => ⟨htrees verbose ns, hashless_sublist_of_inked (htrees verbose ns)⟩,
    fun t => ?_⟩
  have hdoc := htrees settings.verbose
    (Block.nodesAll (Markdown.read (Text.normalizeLineEndings t)))
  rw [Block.eventsAll_nodesAll] at hdoc
  rw [output_convert]
  exact ⟨hdoc, hashless_sublist_of_inked hdoc⟩

end Wiki

end JiraMarkup
