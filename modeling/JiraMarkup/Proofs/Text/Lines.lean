/-
  Lines and words.

  * `lines` is splitting at newlines, and `unlines` undoes it; what the library knows about
    splitting is stated here for both;
  * `sourceLines_unlines_append`: a text in front of others begins with its lines;
  * `mentions_iff`: a text mentions the words that are infixes of it;
  * `filled` are the lines that are not empty.
-/
import JiraMarkup.Text.Blank
import JiraMarkup.Text.LineEnding
import Mathlib.Data.List.Infix

namespace JiraMarkup.Text

/-! ## Cutting at newlines -/

@[simp] theorem lines_newline (t : Text) : lines ('\n' :: t) = [] :: lines t := rfl

theorem lines_ne_nil (t : Text) : lines t ≠ [] := by
  cases t with
  | nil => simp [lines]
  | cons c t => simp only [lines]; split <;> [simp; split <;> simp]

theorem ne_nil_of_length_eq_lines {ls : List Text} {t : Text}
    (h : ls.length = (lines t).length) : ls ≠ [] := by
  rw [← List.length_pos_iff, h, List.length_pos_iff]
  exact lines_ne_nil t

theorem lines_cons {c : Char} (h : c ≠ '\n') (t : Text) :
    lines (c :: t) = (lines t).modifyHead (c :: ·) := by
  obtain ⟨l, ls, hl⟩ := List.exists_cons_of_ne_nil (lines_ne_nil t)
  simp [lines, h, hl]

theorem lines_eq_splitOn (t : Text) : lines t = t.splitOn '\n' := by
  induction t with
  | nil => rfl
  | cons c t ih =>
    rw [List.splitOn_cons_eq_if_modifyHead, ← ih]
    by_cases h : c = '\n'
    · subst h; simp
    · simp [lines_cons h, h]

theorem unlines_cons {ls : List Text} (h : ls ≠ []) (l : Text) :
    unlines (l :: ls) = l ++ '\n' :: unlines ls := by
  obtain ⟨l', ls, rfl⟩ := List.exists_cons_of_ne_nil h; rfl

theorem unlines_eq_intercalate (ls : List Text) : unlines ls = ['\n'].intercalate ls := by
  induction ls with
  | nil => rfl
  | cons l ls ih =>
    by_cases h : ls = []
    · subst h; simp [unlines]
    · rw [unlines_cons h, ih, List.intercalate_cons_of_ne_nil h]; simp

@[simp] theorem unlines_lines (t : Text) : unlines (lines t) = t := by
  rw [lines_eq_splitOn, unlines_eq_intercalate, List.intercalate_splitOn]

/-- Texts with the same lines are the same. -/
theorem lines_injective : Function.Injective lines :=
  Function.LeftInverse.injective unlines_lines

theorem lines_unlines {ls : List Text} (hne : ls ≠ []) (h : ∀ l ∈ ls, '\n' ∉ l) :
    lines (unlines ls) = ls := by
  rw [lines_eq_splitOn, unlines_eq_intercalate, List.splitOn_intercalate _ h hne]

theorem lines_of_notMem {t : Text} (h : '\n' ∉ t) : lines t = [t] := by
  rw [lines_eq_splitOn, List.splitOn_eq_singleton h]

/-- A newline ends the lines before it. -/
theorem lines_append_newline (a b : Text) : lines (a ++ '\n' :: b) = lines a ++ lines b := by
  simp only [lines_eq_splitOn, List.splitOn_append_cons_self]

theorem lines_append_singleton (t : Text) : lines (t ++ ['\n']) = lines t ++ [[]] :=
  lines_append_newline t []

theorem newline_notMem_of_mem_lines {t l : Text} (h : l ∈ lines t) : '\n' ∉ l := by
  induction t generalizing l with
  | nil => simp_all [lines]
  | cons c t ih =>
    by_cases hc : c = '\n'
    · subst hc
      rcases List.mem_cons.1 h with rfl | h
      · simp
      · exact ih h
    · obtain ⟨l', ls, hl⟩ := List.exists_cons_of_ne_nil (lines_ne_nil t)
      rw [lines_cons hc, hl, List.modifyHead_cons] at h
      rw [hl] at ih
      rcases List.mem_cons.1 h with rfl | h
      · simpa [Ne.symm hc] using ih (List.mem_cons_self ..)
      · exact ih (List.mem_cons_of_mem _ h)

theorem unlines_append {as bs : List Text} (ha : as ≠ []) (hb : bs ≠ []) :
    unlines (as ++ bs) = unlines as ++ '\n' :: unlines bs := by
  induction as with
  | nil => exact absurd rfl ha
  | cons a as ih =>
    rw [List.cons_append, unlines_cons (by simp [hb])]
    rcases List.eq_nil_or_concat as with rfl | ⟨as, x, rfl⟩
    · simp [unlines]
    · have has : as ++ [x] ≠ [] := by simp
      rw [List.concat_eq_append] at ih ⊢
      rw [ih has, unlines_cons has, List.append_assoc, List.cons_append]

/-- The last of some lines goes on with the first of others. -/
theorem unlines_concat_append (as : List Text) (a b : Text) (bs : List Text) :
    unlines (as ++ [a]) ++ unlines (b :: bs) = unlines (as ++ (a ++ b) :: bs) := by
  induction as with
  | nil =>
    by_cases h : bs = []
    · subst h; rfl
    · rw [List.nil_append, List.nil_append, unlines_cons h, unlines_cons h, List.append_assoc]
      rfl
  | cons c as ih =>
    have hleft : as ++ [a] ≠ [] := by simp
    have hright : as ++ (a ++ b) :: bs ≠ [] := by simp
    rw [List.cons_append, List.cons_append, unlines_cons hleft, unlines_cons hright, ← ih,
      List.append_assoc, List.cons_append]

/-- Texts with a newline behind each. -/
theorem flatten_map_newline {ls : List Text} (h : ls ≠ []) :
    (ls.map (· ++ ['\n'])).flatten = unlines ls ++ ['\n'] := by
  induction ls with
  | nil => exact absurd rfl h
  | cons l ls ih =>
    rcases eq_or_ne ls [] with rfl | hne
    · simp [unlines]
    · rw [List.map_cons, List.flatten_cons, ih hne, unlines_cons hne]
      simp

/-- A character of the text is one of a line or ends one. -/
theorem mem_unlines {c : Char} {ls : List Text} (h : c ∈ unlines ls) :
    c = '\n' ∨ ∃ l ∈ ls, c ∈ l := by
  induction ls with
  | nil => simp [unlines] at h
  | cons l ls ih =>
    rcases eq_or_ne ls [] with rfl | hne
    · exact .inr ⟨l, List.mem_cons_self .., h⟩
    · rw [unlines_cons hne, List.mem_append, List.mem_cons] at h
      rcases h with h | h | h
      · exact .inr ⟨l, List.mem_cons_self .., h⟩
      · exact .inl h
      · rcases ih h with h | ⟨l', hl', hc⟩
        · exact .inl h
        · exact .inr ⟨l', List.mem_cons_of_mem _ hl', hc⟩

theorem infix_unlines {l : Text} {ls : List Text} (h : l ∈ ls) : l <:+: unlines ls := by
  induction ls with
  | nil => simp at h
  | cons l' ls ih =>
    rcases List.mem_cons.1 h with rfl | h
    · by_cases hne : ls = []
      · subst hne; exact List.infix_refl _
      · rw [unlines_cons hne]
        exact List.infix_append_left
    · rw [unlines_cons (List.ne_nil_of_mem h)]
      exact List.infix_append_of_infix_right (List.infix_cons (ih h))

theorem infix_of_mem_lines {l t : Text} (h : l ∈ lines t) : l <:+: t := by
  have := infix_unlines h
  rwa [unlines_lines] at this

/-! ## Source lines -/

theorem sourceLines_append_newline {l : Text} (h : '\n' ∉ l) (t : Text) :
    sourceLines (l ++ '\n' :: t) = ⟨l, true⟩ :: sourceLines t := by
  induction l with
  | nil => rfl
  | cons c l ih =>
    rw [List.mem_cons, not_or] at h
    rw [List.cons_append, sourceLines, if_neg (Ne.symm h.1), ih h.2]

/-- A text that no newline ends is its last line, if there is something in it. -/
theorem sourceLines_of_notMem {l : Text} (h : '\n' ∉ l) (hne : l ≠ []) :
    sourceLines l = [⟨l, false⟩] := by
  induction l with
  | nil => exact absurd rfl hne
  | cons c l ih =>
    rw [List.mem_cons, not_or] at h
    rw [sourceLines, if_neg (Ne.symm h.1)]
    rcases eq_or_ne l [] with rfl | hl
    · rfl
    · rw [ih h.2 hl]

/-- A text that a newline ends begins with its lines. -/
theorem sourceLines_unlines_append {ls : List Text} (hne : ls ≠ []) (h : ∀ l ∈ ls, '\n' ∉ l)
    (t : Text) :
    sourceLines (unlines ls ++ '\n' :: t) = ls.map (⟨·, true⟩) ++ sourceLines t := by
  induction ls with
  | nil => exact absurd rfl hne
  | cons l ls ih =>
    rw [List.forall_mem_cons] at h
    rcases eq_or_ne ls [] with rfl | hls
    · exact sourceLines_append_newline h.1 t
    · rw [unlines_cons hls, List.append_assoc, List.cons_append, sourceLines_append_newline h.1,
        ih hls h.2, List.map_cons, List.cons_append]

/-! ## Line endings -/

theorem normalize_of_notMem {t : Text} (h : '\r' ∉ t) : normalize t = ⟨t, true⟩ := by
  rw [normalize, if_neg (by simpa using h)]

/-- There is nothing to normalize without a carriage return. -/
theorem normalizeLineEndings_of_notMem {t : Text} (h : '\r' ∉ t) :
    normalizeLineEndings t = t := by
  rw [normalizeLineEndings, normalize_of_notMem h]

/-- A text that is kept could as well have been written anew. -/
theorem normalizeLineEndings_eq_map (t : Text) :
    normalizeLineEndings t = (joinPairs t).map fun c => if c = '\r' then '\n' else c := by
  by_cases h : '\r' ∈ t
  · rw [normalizeLineEndings, normalize, if_pos (by simpa using h)]
  · have hjoin : joinPairs t = t := by
      induction t using joinPairs.induct with
      | case1 t _ => simp at h
      | case2 c t hne ih =>
        rw [List.mem_cons, not_or] at h
        rw [joinPairs.eq_2 c t hne, ih h.2]
      | case3 => rfl
    have hmap : t.map (fun c => if c = '\r' then '\n' else c) = t.map id :=
      List.map_congr_left fun c hc => if_neg (ne_of_mem_of_not_mem hc h)
    rw [normalizeLineEndings_of_notMem h, hjoin, hmap, List.map_id]

/-! ## Words -/

theorem after?_eq_some {w t r : Text} : after? w t = some r ↔ t = w ++ r := by
  induction w generalizing t with
  | nil => simp [after?]
  | cons a w ih =>
    cases t with
    | nil => simp [after?]
    | cons c t =>
      by_cases h : a = c
      · subst h; simp [after?, ih]
      · simp [after?, h, Ne.symm h]

theorem beginsWith_iff {w t : Text} : beginsWith w t = true ↔ w <+: t := by
  simp only [beginsWith, Option.isSome_iff_exists, after?_eq_some]
  exact ⟨fun ⟨r, h⟩ => ⟨r, h.symm⟩, fun ⟨r, h⟩ => ⟨r, h.symm⟩⟩

/-- A text mentions the words that are infixes of it. -/
theorem mentions_iff {w t : Text} : mentions w t = true ↔ w <:+: t := by
  induction t with
  | nil => simp [mentions]
  | cons c t ih => rw [mentions, Bool.or_eq_true, beginsWith_iff, ih, List.infix_cons_iff]

/-! ## Filled lines -/

/-- The lines that are not empty. -/
def filled (ls : List Text) : List Text := ls.filter fun l => !l.isEmpty

@[simp] theorem filled_nil : filled [] = [] := rfl

@[simp] theorem filled_cons_nil (ls : List Text) : filled ([] :: ls) = filled ls := rfl

theorem filled_cons {l : Text} (h : l ≠ []) (ls : List Text) :
    filled (l :: ls) = l :: filled ls := by
  simp [filled, h]

@[simp] theorem filled_append (as bs : List Text) : filled (as ++ bs) = filled as ++ filled bs :=
  List.filter_append ..

theorem filled_lines_unlines {ls : List Text} (h : ∀ l ∈ ls, '\n' ∉ l) :
    filled (lines (unlines ls)) = filled ls := by
  by_cases hne : ls = []
  · subst hne; rfl
  · rw [lines_unlines hne h]

theorem mem_filled {l : Text} {ls : List Text} : l ∈ filled ls ↔ l ∈ ls ∧ l ≠ [] := by
  simp [filled]

theorem filled_eq_self {ls : List Text} (h : ∀ l ∈ ls, l ≠ []) : filled ls = ls := by
  rw [filled, List.filter_eq_self]
  exact fun l hl => by simp [h l hl]

end JiraMarkup.Text
