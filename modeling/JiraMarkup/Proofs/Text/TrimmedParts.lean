/-
  Trimming some texts as one, when each stands on lines of its own.

  * `trimParts` takes the white space away from the two ends of all the texts together. Each of
    them stays in its place, though nothing may be left of it;
  * `filled_lines_trimWhite_unlines`: the filled lines of all of them together, trimmed, are those
    of the parts; `filled_lines_trimParts` says when no filled line is trimmed;
  * `inkLines` are the lines of a text that show anything, without their white space;
    `TrimmedTo` says that they stay, and `forall₂_trimParts` says it of each part.
-/
import JiraMarkup.Proofs.Text.Inked
import JiraMarkup.Proofs.Text.Trimming
import Mathlib.Data.List.Forall2

namespace JiraMarkup.Text

/-! ## Lines of texts put together -/

/-- The last line of a text goes on with the first line of the next. -/
theorem lines_append {a b : Text} {as bs : List Text} {x y : Text} (ha : lines a = as ++ [x])
    (hb : lines b = y :: bs) : lines (a ++ b) = as ++ (x ++ y) :: bs := by
  have hnl : ∀ l ∈ as ++ (x ++ y) :: bs, '\n' ∉ l := by
    have ha' : ∀ l ∈ as ++ [x], '\n' ∉ l := fun l hl => newline_notMem_of_mem_lines (ha ▸ hl)
    have hb' : ∀ l ∈ y :: bs, '\n' ∉ l := fun l hl => newline_notMem_of_mem_lines (hb ▸ hl)
    simp only [List.forall_mem_append, List.forall_mem_cons] at ha' hb' ⊢
    exact ⟨ha'.1, by simp [ha'.2.1, hb'.1], hb'.2⟩
  rw [← unlines_lines a, ← unlines_lines b, ha, hb, unlines_concat_append,
    lines_unlines (by simp) hnl]

/-- The filled lines of texts on lines of their own are those of each of them. -/
theorem filled_lines_unlines_parts (ts : List Text) :
    filled (lines (unlines ts)) = ts.flatMap fun t => filled (lines t) := by
  induction ts with
  | nil => rfl
  | cons t ts ih =>
    by_cases h : ts = []
    · subst h
      rw [List.flatMap_cons, List.flatMap_nil, List.append_nil]
      rfl
    · rw [unlines_cons h, lines_append_newline, filled_append, ih, List.flatMap_cons]

theorem filled_eq_nil {ls : List Text} (h : ∀ l ∈ ls, l = []) : filled ls = [] := by
  rw [filled, List.filter_eq_nil_iff]
  exact fun l hl => by simp [h l hl]

/-- A newline at the end is trimmed. -/
theorem trimWhite_append_newline (t : Text) : trimWhite (t ++ ['\n']) = trimWhite t := by
  have hnl : trimEndWith isWhite ['\n'] = [] := by decide
  rw [trimWhite, trimWhite, List.dropWhile_append]
  split
  · next h =>
    rw [List.isEmpty_iff] at h
    rw [h]
    rfl
  · rw [trimEndWith_append, if_pos hnl]

/-! ## Trimming in place -/

/-- The texts without the white space at the front of all of them together. -/
def trimFirst : List Text → List Text
  | [] => []
  | t :: ts =>
    if t.dropWhile isWhite = [] then [] :: trimFirst ts else t.dropWhile isWhite :: ts

/-- The texts without the white space at the end of all of them together. -/
def trimLast : List Text → List Text
  | [] => []
  | t :: ts =>
    (if ∀ u ∈ trimLast ts, u = [] then trimEndWith isWhite t else t) :: trimLast ts

/-- The texts without the white space at the two ends of all of them together. -/
def trimParts (ts : List Text) : List Text := trimLast (trimFirst ts)

/-- At the front, texts are left empty where `trimFront` leaves them out. -/
theorem trimFirst_eq (ts : List Text) : ∃ k, trimFirst ts =
    List.replicate k [] ++ (trimFront (ts.map (Prod.mk ()))).map Prod.snd := by
  induction ts with
  | nil => exact ⟨0, rfl⟩
  | cons t ts ih =>
    obtain ⟨k, ih⟩ := ih
    rw [trimFirst, List.map_cons, trimFront]
    by_cases h : t.dropWhile isWhite = []
    · rw [if_pos h, if_pos h, ih]
      exact ⟨k + 1, rfl⟩
    · rw [if_neg h, if_neg h]
      exact ⟨0, by simp [Function.comp_def]⟩

theorem trimLast_replicate_append (k : Nat) (ts : List Text) :
    trimLast (List.replicate k [] ++ ts) = List.replicate k [] ++ trimLast ts := by
  have hnil : trimEndWith isWhite [] = [] := rfl
  induction k with
  | zero => rfl
  | succ k ih => simp [List.replicate_succ, trimLast, ih, hnil]

/-- What `trimBack` leaves ends in a line that is filled. -/
theorem exists_filled_trimBack {κ : Type} {ls : List (κ × Text)} (h : trimBack ls ≠ []) :
    ∃ l ∈ trimBack ls, l.2 ≠ [] := by
  induction ls with
  | nil => exact absurd rfl h
  | cons l ls ih =>
    obtain ⟨k, l⟩ := l
    rw [trimBack] at h ⊢
    by_cases hls : trimBack ls = []
    · by_cases hl : trimEndWith isWhite l = []
      · simp [hls, hl] at h
      · exact ⟨(k, trimEndWith isWhite l), by simp [hls, hl], hl⟩
    · obtain ⟨l', hl', hne⟩ := ih hls
      exact ⟨l', by simp [hls, hl'], hne⟩

/-- At the end, texts are left empty where `trimBack` leaves them out. -/
theorem trimLast_eq (ts : List Text) : ∃ k, trimLast ts =
    (trimBack (ts.map (Prod.mk ()))).map Prod.snd ++ List.replicate k [] := by
  induction ts with
  | nil => exact ⟨0, rfl⟩
  | cons t ts ih =>
    obtain ⟨k, ih⟩ := ih
    rw [trimLast, List.map_cons, trimBack]
    by_cases hts : trimBack (ts.map (Prod.mk ())) = []
    · have hempty : ∀ u ∈ trimLast ts, u = [] := by simp [ih, hts]
      rw [if_pos hempty, if_pos hts, ih, hts]
      by_cases ht : trimEndWith isWhite t = []
      · exact ⟨k + 1, by simp [ht, List.replicate_succ]⟩
      · exact ⟨k, by simp [ht]⟩
    · have hfilled : ¬ ∀ u ∈ trimLast ts, u = [] := by
        obtain ⟨l, hl, hne⟩ := exists_filled_trimBack hts
        intro hempty
        rw [ih] at hempty
        exact hne (hempty l.2 (List.mem_append_left _ (List.mem_map_of_mem hl)))
      rw [if_neg hfilled, if_neg hts, ih]
      exact ⟨k, rfl⟩

/-- **Trimming texts as one trims them in place**, as far as their filled lines go. -/
theorem filled_lines_trimWhite_unlines (ts : List Text) :
    filled (lines (trimWhite (unlines ts))) = (trimParts ts).flatMap fun t => filled (lines t) := by
  have hnil : ∀ n, (List.replicate n []).flatMap (fun t => filled (lines t)) = [] := fun n => by
    induction n with
    | zero => rfl
    | succ n ih => rw [List.replicate_succ, List.flatMap_cons, ih]; rfl
  obtain ⟨k, hfirst⟩ := trimFirst_eq ts
  obtain ⟨n, hlast⟩ := trimLast_eq ((trimFront (ts.map (Prod.mk ()))).map Prod.snd)
  have hlabels : ((trimFront (ts.map (Prod.mk ()))).map Prod.snd).map (Prod.mk ()) =
      trimFront (ts.map (Prod.mk ())) := by
    rw [List.map_map]
    exact List.map_id _
  have hwhole : trimWhite (unlines ts) =
      unlines ((trimBack (trimFront (ts.map (Prod.mk ())))).map Prod.snd) := by
    rw [← trimWhite_unlines, List.map_map]
    exact congrArg (fun ts => trimWhite (unlines ts)) (List.map_id ts).symm
  rw [hlabels] at hlast
  rw [hwhole, filled_lines_unlines_parts, trimParts, hfirst, trimLast_replicate_append, hlast,
    List.flatMap_append, List.flatMap_append, hnil, hnil, List.append_nil, List.nil_append]

/-! ## Parts that are trimmed already -/

theorem trimFirst_eq_self {ts : List Text} (h : ∀ t ∈ ts, t.dropWhile isWhite = t) :
    trimFirst ts = ts := by
  induction ts with
  | nil => rfl
  | cons t ts ih =>
    rw [List.forall_mem_cons] at h
    rw [trimFirst, h.1, ih h.2]
    split
    · next ht => rw [ht]
    · rfl

theorem filled_lines_trimLast {ts : List Text}
    (h : ∀ t ∈ ts, filled (lines (trimEndWith isWhite t)) = filled (lines t)) :
    (trimLast ts).flatMap (fun t => filled (lines t)) = ts.flatMap fun t => filled (lines t) := by
  induction ts with
  | nil => rfl
  | cons t ts ih =>
    rw [List.forall_mem_cons] at h
    rw [trimLast, List.flatMap_cons, List.flatMap_cons, ih h.2]
    split
    · rw [h.1]
    · rfl

/-- Trimming leaves the filled lines of texts as they are if they have no white space in front,
    and none behind but that of empty lines. -/
theorem filled_lines_trimParts {ts : List Text} (hfront : ∀ t ∈ ts, t.dropWhile isWhite = t)
    (hback : ∀ t ∈ ts, filled (lines (trimEndWith isWhite t)) = filled (lines t)) :
    (trimParts ts).flatMap (fun t => filled (lines t)) = ts.flatMap fun t => filled (lines t) := by
  rw [trimParts, trimFirst_eq_self hfront, filled_lines_trimLast hback]

/-! ## Ink -/

/-- The lines of a text that show anything, without their white space. -/
def inkLines (t : Text) : List Text := filled ((lines t).map inked)

/-- Empty lines show nothing. -/
theorem filled_map_inked_filled (ls : List Text) :
    filled ((filled ls).map inked) = filled (ls.map inked) := by
  induction ls with
  | nil => rfl
  | cons l ls ih =>
    by_cases h : l = []
    · subst h
      exact ih
    · rw [filled_cons h, List.map_cons, List.map_cons]
      by_cases hl : inked l = []
      · rw [hl, filled_cons_nil, filled_cons_nil, ih]
      · rw [filled_cons hl, filled_cons hl, ih]

theorem inked_eq_flatten_inkLines (t : Text) : inked t = (inkLines t).flatten := by
  have hlines : inked t = (lines t).flatMap inked := filter_eq_flatMap_lines (by decide) t
  have hfilled := flatMap_filled id rfl ((lines t).map inked)
  rw [List.flatMap_id, List.flatMap_id] at hfilled
  rw [hlines, inkLines, hfilled, List.flatMap_def]

/-- `u` is the text `t` without some of the white space at its ends. -/
structure TrimmedTo (t u : Text) : Prop where
  /-- The lines that show anything are the same. -/
  ink : inkLines u = inkLines t
  /-- There may be fewer filled lines. -/
  length_le : (filled (lines u)).length ≤ (filled (lines t)).length

namespace TrimmedTo

variable {t u v w : Text}

theorem refl (t : Text) : TrimmedTo t t := ⟨rfl, Nat.le_refl _⟩

theorem trans (h : TrimmedTo t u) (h' : TrimmedTo u v) : TrimmedTo t v :=
  ⟨h'.ink.trans h.ink, h'.length_le.trans h.length_le⟩

/-- A line that is filled counts for no fewer than another one in its place. -/
theorem length_filled_cons_le {l l' : Text} (h : l' = [] → l = []) (ls : List Text) :
    (filled (l :: ls)).length ≤ (filled (l' :: ls)).length := by
  by_cases hl' : l' = []
  · rw [h hl', hl']
  · rw [filled_cons hl', List.length_cons]
    by_cases hl : l = []
    · rw [hl, filled_cons_nil]
      exact Nat.le_succ _
    · rw [filled_cons hl, List.length_cons]

theorem inked_of_mem_lines (hw : ∀ c ∈ w, isWhite c = true) {l : Text} (hl : l ∈ lines w) :
    inked l = [] := by
  rw [inked, List.filter_eq_nil_iff]
  exact fun c hc => by simp [hw c ((infix_of_mem_lines hl).subset hc)]

/-- White space in front is left out. -/
theorem front (hw : ∀ c ∈ w, isWhite c = true) (u : Text) : TrimmedTo (w ++ u) u := by
  obtain ⟨as, x, has⟩ : ∃ as x, lines w = as ++ [x] :=
    (List.eq_nil_or_concat' (lines w)).resolve_left (lines_ne_nil w)
  obtain ⟨y, bs, hbs⟩ := List.exists_cons_of_ne_nil (lines_ne_nil u)
  have hwhite : ∀ l ∈ as ++ [x], inked l = [] := fun l hl => inked_of_mem_lines hw (has ▸ hl)
  rw [List.forall_mem_append, List.forall_mem_singleton] at hwhite
  have hxy : inked (x ++ y) = inked y := by rw [inked_append, hwhite.2, List.nil_append]
  have has' : filled (as.map inked) = [] := filled_eq_nil (List.forall_mem_map.2 hwhite.1)
  constructor
  · rw [inkLines, inkLines, lines_append has hbs, hbs, List.map_append, List.map_cons,
      List.map_cons, hxy, filled_append, has', List.nil_append]
  · rw [lines_append has hbs, hbs, filled_append, List.length_append]
    have hle : (filled (y :: bs)).length ≤ (filled ((x ++ y) :: bs)).length :=
      length_filled_cons_le (fun h => (List.append_eq_nil_iff.1 h).2) bs
    omega

/-- White space behind is left out. -/
theorem back (hw : ∀ c ∈ w, isWhite c = true) (u : Text) : TrimmedTo (u ++ w) u := by
  obtain ⟨as, x, has⟩ : ∃ as x, lines u = as ++ [x] :=
    (List.eq_nil_or_concat' (lines u)).resolve_left (lines_ne_nil u)
  obtain ⟨y, bs, hbs⟩ := List.exists_cons_of_ne_nil (lines_ne_nil w)
  have hwhite : ∀ l ∈ y :: bs, inked l = [] := fun l hl => inked_of_mem_lines hw (hbs ▸ hl)
  rw [List.forall_mem_cons] at hwhite
  have hxy : inked (x ++ y) = inked x := by rw [inked_append, hwhite.1, List.append_nil]
  have hbs' : ∀ l ∈ bs.map inked, l = [] := List.forall_mem_map.2 hwhite.2
  have hmap : ∀ z : Text, (as ++ z :: bs).map inked = as.map inked ++ inked z :: bs.map inked :=
    fun z => by rw [List.map_append, List.map_cons]
  constructor
  · have hx : filled (inked x :: bs.map inked) = filled [inked x] := by
      rw [← List.singleton_append, filled_append, filled_eq_nil hbs', List.append_nil]
    rw [inkLines, inkLines, lines_append has hbs, has, hmap, hxy, filled_append, hx,
      ← filled_append, List.map_append, List.map_singleton]
  · have hle : (filled [x]).length ≤ (filled (x :: bs)).length := by
      rw [← List.singleton_append (l := bs), filled_append, List.length_append]
      exact Nat.le_add_right _ _
    have hle' : (filled (x :: bs)).length ≤ (filled ((x ++ y) :: bs)).length :=
      length_filled_cons_le (fun h => (List.append_eq_nil_iff.1 h).1) bs
    rw [lines_append has hbs, has, filled_append, filled_append, List.length_append,
      List.length_append]
    omega

theorem dropWhile (t : Text) : TrimmedTo t (t.dropWhile isWhite) := by
  have hwhite : ∀ c ∈ t.takeWhile isWhite, isWhite c = true := fun c hc =>
    List.all_eq_true.1 List.all_takeWhile c hc
  have h := front hwhite (t.dropWhile isWhite)
  rwa [List.takeWhile_append_dropWhile] at h

theorem trimEnd (t : Text) : TrimmedTo t (trimEndWith isWhite t) := by
  have hwhite : ∀ c ∈ (t.reverse.takeWhile isWhite).reverse, isWhite c = true := fun c hc =>
    List.all_eq_true.1 List.all_takeWhile c (List.mem_reverse.1 hc)
  have h := back hwhite (trimEndWith isWhite t)
  rwa [trimEndWith, ← List.reverse_append, List.takeWhile_append_dropWhile,
    List.reverse_reverse] at h

end TrimmedTo

theorem forall₂_trimFirst (ts : List Text) : List.Forall₂ TrimmedTo ts (trimFirst ts) := by
  induction ts with
  | nil => exact .nil
  | cons t ts ih =>
    have ht := TrimmedTo.dropWhile t
    rw [trimFirst]
    split
    · next h => exact .cons (h ▸ ht) ih
    · exact .cons ht (List.forall₂_same.2 fun t _ => .refl t)

theorem forall₂_trimLast {ts us : List Text} (h : List.Forall₂ TrimmedTo ts us) :
    List.Forall₂ TrimmedTo ts (trimLast us) := by
  induction h with
  | nil => exact .nil
  | @cons t u ts us ht _ ih =>
    rw [trimLast]
    split
    · exact .cons (ht.trans (.trimEnd u)) ih
    · exact .cons ht ih

/-- **Each part keeps the lines that show anything.** -/
theorem forall₂_trimParts (ts : List Text) : List.Forall₂ TrimmedTo ts (trimParts ts) :=
  forall₂_trimLast (forall₂_trimFirst ts)

end JiraMarkup.Text
