/-
  Trimming a text, line by line. The lines may carry labels, which they keep.

  * `trimFront` and `trimBack` trim the two ends of a text that is given by its lines;
  * `trimWhite_unlines`: trimming a text trims its lines;
  * `filled_lines_trimWhite`: it leaves the filled lines if each of them is trimmed.
-/
import JiraMarkup.Proofs.Text.Lines

namespace JiraMarkup.Text

variable {κ : Type}

/-- The lines without the white space at the front of their text. -/
def trimFront : List (κ × Text) → List (κ × Text)
  | [] => []
  | (k, l) :: ls =>
    if l.dropWhile isWhite = [] then trimFront ls else (k, l.dropWhile isWhite) :: ls

/-- The lines without the white space at the end of their text. -/
def trimBack : List (κ × Text) → List (κ × Text)
  | [] => []
  | (k, l) :: ls =>
    if trimBack ls = [] then
      if trimEndWith isWhite l = [] then [] else [(k, trimEndWith isWhite l)]
    else (k, l) :: trimBack ls

/-! ## Trimming a text -/

theorem dropWhile_of_forall {p : Char → Bool} {t : Text} (h : ∀ c ∈ t, p c = false) :
    t.dropWhile p = t := by
  cases t with
  | nil => rfl
  | cons c t => exact List.dropWhile_cons_of_neg (by simp [h c (List.mem_cons_self ..)])

theorem trimEndWith_of_forall {p : Char → Bool} {t : Text} (h : ∀ c ∈ t, p c = false) :
    trimEndWith p t = t := by
  rw [trimEndWith, dropWhile_of_forall fun c hc => h c (List.mem_reverse.1 hc),
    List.reverse_reverse]

theorem trimEndWith_append {p : Char → Bool} (a b : Text) :
    trimEndWith p (a ++ b) =
      if trimEndWith p b = [] then trimEndWith p a else a ++ trimEndWith p b := by
  simp only [trimEndWith, List.reverse_append, List.dropWhile_append, List.isEmpty_iff,
    List.reverse_eq_nil_iff]
  split <;> simp

theorem mem_of_mem_trimEndWith {p : Char → Bool} {t : Text} {c : Char}
    (h : c ∈ trimEndWith p t) : c ∈ t := by
  rw [trimEndWith, List.mem_reverse] at h
  exact List.mem_reverse.1 ((List.dropWhile_sublist _).mem h)

/-- A text is trimmed if its two ends are. -/
theorem trimmed_iff {l : Text} :
    trimWhite l = l ↔ l.dropWhile isWhite = l ∧ trimEndWith isWhite l = l := by
  refine ⟨fun h => ?_, fun ⟨h, h'⟩ => by rw [trimWhite, h, h']⟩
  have hend : (trimWhite l).length ≤ (l.dropWhile isWhite).length := by
    have := (List.dropWhile_suffix (l := (l.dropWhile isWhite).reverse) isWhite).length_le
    simpa [trimWhite, trimEndWith] using this
  have hfront : l.dropWhile isWhite = l :=
    (List.dropWhile_suffix isWhite).eq_of_length_le (by rw [h] at hend; exact hend)
  refine ⟨hfront, ?_⟩
  rwa [trimWhite, hfront] at h

theorem dropWhile_unlines (ls : List (κ × Text)) :
    (unlines (ls.map Prod.snd)).dropWhile isWhite = unlines ((trimFront ls).map Prod.snd) := by
  induction ls with
  | nil => rfl
  | cons l ls ih =>
    obtain ⟨k, l⟩ := l
    by_cases h : ls = []
    · subst h
      by_cases hl : l.dropWhile isWhite = [] <;> simp [unlines, trimFront, hl]
    · have hne : ls.map Prod.snd ≠ [] := by simpa using h
      rw [List.map_cons, unlines_cons hne, List.dropWhile_append, trimFront]
      by_cases hl : l.dropWhile isWhite = []
      · rw [if_pos hl, if_pos (by simp [hl]), List.dropWhile_cons_of_pos (by decide), ih]
      · rw [if_neg hl, if_neg (by simpa using hl), List.map_cons, unlines_cons hne]

theorem unlines_trimBack_eq_nil {ls : List (κ × Text)} :
    unlines ((trimBack ls).map Prod.snd) = [] ↔ trimBack ls = [] := by
  refine ⟨fun h => ?_, fun h => by rw [h]; rfl⟩
  cases ls with
  | nil => rfl
  | cons l ls =>
    by_cases hls : trimBack ls = []
    · by_cases hl : trimEndWith isWhite l.2 = [] <;> simp_all [trimBack, unlines]
    · have hne : (trimBack ls).map Prod.snd ≠ [] := by simpa using hls
      simp [trimBack, hls, unlines_cons hne] at h

theorem trimEndWith_unlines (ls : List (κ × Text)) :
    trimEndWith isWhite (unlines (ls.map Prod.snd)) = unlines ((trimBack ls).map Prod.snd) := by
  induction ls with
  | nil => rfl
  | cons l ls ih =>
    obtain ⟨k, l⟩ := l
    by_cases h : ls = []
    · subst h
      by_cases hl : trimEndWith isWhite l = [] <;> simp [unlines, trimBack, hl]
    · have hnl : trimEndWith isWhite ('\n' :: unlines (ls.map Prod.snd)) =
          if trimBack ls = [] then [] else '\n' :: unlines ((trimBack ls).map Prod.snd) := by
        rw [← List.singleton_append, trimEndWith_append, ih]
        simp only [unlines_trimBack_eq_nil]
        rfl
      rw [List.map_cons, unlines_cons (by simpa using h), trimEndWith_append, hnl, trimBack]
      by_cases hls : trimBack ls = []
      · by_cases hl : trimEndWith isWhite l = [] <;> simp [hls, hl, unlines]
      · have hne : (trimBack ls).map Prod.snd ≠ [] := by simpa using hls
        simp [hls, unlines_cons hne]

/-- **Trimming a text trims its lines.** -/
theorem trimWhite_unlines (ls : List (κ × Text)) :
    trimWhite (unlines (ls.map Prod.snd)) =
      unlines ((trimBack (trimFront ls)).map Prod.snd) := by
  rw [trimWhite, dropWhile_unlines, trimEndWith_unlines]

theorem newline_notMem_trimFront {ls : List (κ × Text)} (h : ∀ l ∈ ls, '\n' ∉ l.2) :
    ∀ l ∈ trimFront ls, '\n' ∉ l.2 := by
  induction ls with
  | nil => exact h
  | cons l ls ih =>
    obtain ⟨k, l⟩ := l
    rw [List.forall_mem_cons] at h
    by_cases hl : l.dropWhile isWhite = []
    · simpa [trimFront, hl] using ih h.2
    · rw [trimFront, if_neg hl, List.forall_mem_cons]
      exact ⟨fun hm => h.1 ((List.dropWhile_sublist _).mem hm), h.2⟩

theorem newline_notMem_trimBack {ls : List (κ × Text)} (h : ∀ l ∈ ls, '\n' ∉ l.2) :
    ∀ l ∈ trimBack ls, '\n' ∉ l.2 := by
  induction ls with
  | nil => exact h
  | cons l ls ih =>
    obtain ⟨k, l⟩ := l
    rw [List.forall_mem_cons] at h
    by_cases hls : trimBack ls = []
    · by_cases hl : trimEndWith isWhite l = []
      · simp [trimBack, hls, hl]
      · simpa [trimBack, hls, hl] using fun hm => h.1 (mem_of_mem_trimEndWith hm)
    · rw [trimBack, if_neg hls, List.forall_mem_cons]
      exact ⟨h.1, ih h.2⟩

/-! ## Lines that are trimmed already -/

theorem filled_trimFront {ls : List (κ × Text)} (h : ∀ l ∈ ls, l.2.dropWhile isWhite = l.2) :
    filled ((trimFront ls).map Prod.snd) = filled (ls.map Prod.snd) := by
  induction ls with
  | nil => rfl
  | cons l ls ih =>
    obtain ⟨k, l⟩ := l
    rw [List.forall_mem_cons] at h
    rw [trimFront, h.1]
    by_cases hl : l = []
    · rw [if_pos hl, ih h.2, hl, List.map_cons, filled_cons_nil]
    · rw [if_neg hl]

theorem mem_of_mem_trimFront {ls : List (κ × Text)} (h : ∀ l ∈ ls, l.2.dropWhile isWhite = l.2) :
    ∀ l ∈ trimFront ls, l ∈ ls := by
  induction ls with
  | nil => simp [trimFront]
  | cons l ls ih =>
    obtain ⟨k, l⟩ := l
    rw [List.forall_mem_cons] at h
    rw [trimFront, h.1]
    by_cases hl : l = []
    · rw [if_pos hl]
      exact fun l' hl' => List.mem_cons_of_mem _ (ih h.2 l' hl')
    · rw [if_neg hl]
      exact fun _ hl' => hl'

theorem filled_trimBack {ls : List (κ × Text)} (h : ∀ l ∈ ls, trimEndWith isWhite l.2 = l.2) :
    filled ((trimBack ls).map Prod.snd) = filled (ls.map Prod.snd) := by
  induction ls with
  | nil => rfl
  | cons l ls ih =>
    obtain ⟨k, l⟩ := l
    rw [List.forall_mem_cons] at h
    have ih := ih h.2
    rw [trimBack, h.1]
    by_cases hls : trimBack ls = []
    · rw [hls] at ih
      by_cases hl : l = [] <;> simp [hls, hl, filled_cons, ← ih]
    · rw [if_neg hls]
      by_cases hl : l = [] <;> simp [hl, filled_cons, ih]

/-- Trimming leaves the filled lines of a text as they are if each of them is trimmed. -/
theorem filled_lines_trimWhite {t : Text} (h : ∀ l ∈ filled (lines t), trimWhite l = l) :
    filled (lines (trimWhite t)) = filled (lines t) := by
  -- Labels do not matter here.
  let ls : List (Unit × Text) := (lines t).map (Prod.mk ())
  have hls : ls.map Prod.snd = lines t := by simp [ls, Function.comp_def]
  have hall : ∀ l ∈ ls, trimWhite l.2 = l.2 := fun l hl => by
    have hl' : l.2 ∈ lines t := hls ▸ List.mem_map_of_mem hl
    by_cases hne : l.2 = []
    · rw [hne]; rfl
    · exact h l.2 (mem_filled.2 ⟨hl', hne⟩)
  have hfront : ∀ l ∈ ls, l.2.dropWhile isWhite = l.2 := fun l hl =>
    (trimmed_iff.1 (hall l hl)).1
  have hback : ∀ l ∈ trimFront ls, trimEndWith isWhite l.2 = l.2 := fun l hl =>
    (trimmed_iff.1 (hall l (mem_of_mem_trimFront hfront l hl))).2
  have hnl : ∀ l ∈ ls, '\n' ∉ l.2 := fun l hl =>
    newline_notMem_of_mem_lines (hls ▸ List.mem_map_of_mem hl)
  have htrim : trimWhite t = unlines ((trimBack (trimFront ls)).map Prod.snd) := by
    rw [← trimWhite_unlines, hls, unlines_lines]
  rw [htrim, filled_lines_unlines, filled_trimBack hback, filled_trimFront hfront, hls]
  exact List.forall_mem_map.2 (newline_notMem_trimBack (newline_notMem_trimFront hnl))

end JiraMarkup.Text
