/-
  Cutting a text at a word.

  * `cut` are the pieces of a text between the places where a word stands. Places are taken from
    the left, and do not overlap;
  * `cut_induction` goes through a text that way;
  * `Apart` are pieces that the word cannot be taken for a part of, not even together with the
    front of the word behind them;
  * `cut_eq_iff`: a text is cut into those pieces that make it up, with the word between each two,
    and are apart.
-/
import JiraMarkup.Proofs.Text.Lines

namespace JiraMarkup.Text

variable {w t : Text}

/-! ## Pieces -/

/-- The pieces of a text between the places of `w`, after `n` characters that are passed over. -/
def cutAfter (w : Text) : Nat → Text → List Text
  | _, [] => [[]]
  | n + 1, _ :: t => cutAfter w n t
  | 0, c :: t =>
    if beginsWith w (c :: t) then [] :: cutAfter w (w.length - 1) t
    else (cutAfter w 0 t).modifyHead (c :: ·)

/-- The pieces of a text between the places of `w`: one more than there are places. -/
def cut (w t : Text) : List Text := cutAfter w 0 t

example : cut "||" "a|||b||" = ["a".toList, "|b".toList, []] := by decide

theorem cutAfter_eq (n : Nat) : cutAfter w n t = cut w (t.drop n) := by
  induction t generalizing n with
  | nil => cases n <;> rfl
  | cons c t ih =>
    cases n with
    | zero => rfl
    | succ n => rw [cutAfter, ih, List.drop_succ_cons]

theorem cut_nil (w : Text) : cut w [] = [[]] := rfl

theorem cut_word_append (hw : w ≠ []) (t : Text) : cut w (w ++ t) = [] :: cut w t := by
  obtain ⟨a, w, rfl⟩ := List.exists_cons_of_ne_nil hw
  have hprefix : beginsWith (a :: w) (a :: (w ++ t)) = true :=
    beginsWith_iff.2 (List.prefix_append (a :: w) t)
  rw [cut, List.cons_append, cutAfter, if_pos hprefix, cutAfter_eq, List.length_cons,
    Nat.add_sub_cancel, List.drop_left]

theorem cut_cons {c : Char} (h : ¬ w <+: c :: t) :
    cut w (c :: t) = (cut w t).modifyHead (c :: ·) := by
  rw [cut, cutAfter, if_neg (by rwa [beginsWith_iff]), cut]

/-- Going through a text from one place of the word to the next. -/
@[elab_as_elim]
theorem cut_induction (hw : w ≠ []) {motive : Text → Prop} (nil : motive [])
    (word : ∀ t, motive t → motive (w ++ t))
    (other : ∀ (c : Char) (t : Text), ¬ w <+: c :: t → motive t → motive (c :: t)) (t : Text) :
    motive t := by
  induction hn : t.length using Nat.strong_induction_on generalizing t with
  | _ n ih =>
    by_cases hprefix : w <+: t
    · obtain ⟨r, rfl⟩ := hprefix
      have hpos : 0 < w.length := List.length_pos_iff.2 hw
      rw [List.length_append] at hn
      exact word r (ih r.length (by omega) r rfl)
    · cases t with
      | nil => exact nil
      | cons c t =>
        rw [List.length_cons] at hn
        exact other c t hprefix (ih t.length (by omega) t rfl)

theorem cut_ne_nil (hw : w ≠ []) (t : Text) : cut w t ≠ [] := by
  induction t using cut_induction hw with
  | nil => simp [cut_nil]
  | word t _ => simp [cut_word_append hw]
  | other c t h ih =>
    obtain ⟨p, ps, hps⟩ := List.exists_cons_of_ne_nil ih
    simp [cut_cons h, hps]

/-- The pieces make up the text. -/
theorem intercalate_cut (hw : w ≠ []) (t : Text) : w.intercalate (cut w t) = t := by
  induction t using cut_induction hw with
  | nil => rfl
  | word t ih =>
    rw [cut_word_append hw, List.intercalate_cons_of_ne_nil (cut_ne_nil hw t), ih]
    rfl
  | other c t h ih =>
    obtain ⟨p, ps, hps⟩ := List.exists_cons_of_ne_nil (cut_ne_nil hw t)
    rw [hps] at ih
    rw [cut_cons h, hps, List.modifyHead_cons]
    rcases eq_or_ne ps [] with rfl | hne
    · rw [List.intercalate_singleton] at ih ⊢
      rw [ih]
    · rw [List.intercalate_cons_of_ne_nil hne] at ih ⊢
      rw [← ih]
      rfl

/-! ## Pieces that are apart -/

/-- No piece has the word in it, and no place of the word begins in a piece and ends within the
    word that follows it. -/
def Apart (w : Text) (ps : List Text) : Prop :=
  (∀ p ∈ ps, ¬ w <:+: p) ∧ ∀ p ∈ ps.dropLast, ¬ w <:+: p ++ w.dropLast

instance (w : Text) (ps : List Text) : Decidable (Apart w ps) :=
  inferInstanceAs (Decidable (_ ∧ _))

theorem apart_singleton {p : Text} : Apart w [p] ↔ ¬ w <:+: p := by simp [Apart]

theorem apart_cons {p : Text} {ps : List Text} (hne : ps ≠ []) :
    Apart w (p :: ps) ↔ ¬ w <:+: p ++ w.dropLast ∧ Apart w ps := by
  have hwithin : ¬ w <:+: p ++ w.dropLast → ¬ w <:+: p := mt List.infix_append_of_infix_left
  rw [Apart, Apart, List.dropLast_cons_of_ne_nil hne, List.forall_mem_cons, List.forall_mem_cons]
  tauto

theorem not_infix_dropLast (hw : w ≠ []) : ¬ w <:+: w.dropLast := fun h => by
  have hpos : 0 < w.length := List.length_pos_iff.2 hw
  have hle := h.length_le
  rw [List.length_dropLast] at hle
  omega

/-- A piece and what a place of the word could begin in front of. -/
theorem append_dropLast_prefix (p w t : Text) : p ++ w.dropLast <+: p ++ w ++ t := by
  rw [List.append_assoc, List.prefix_append_right_inj]
  exact (List.dropLast_prefix w).trans (List.prefix_append w t)

/-- **The pieces that a text is cut into are apart.** -/
theorem apart_cut (hw : w ≠ []) (t : Text) : Apart w (cut w t) := by
  induction t using cut_induction hw with
  | nil => simpa [cut_nil, apart_singleton] using hw
  | word t ih =>
    rw [cut_word_append hw, apart_cons (cut_ne_nil hw t)]
    exact ⟨not_infix_dropLast hw, ih⟩
  | other c t h ih =>
    have htext := intercalate_cut hw t
    obtain ⟨p, ps, hps⟩ := List.exists_cons_of_ne_nil (cut_ne_nil hw t)
    rw [hps] at ih htext
    rw [cut_cons h, hps, List.modifyHead_cons]
    rcases eq_or_ne ps [] with rfl | hne
    · rw [List.intercalate_singleton] at htext
      subst htext
      rw [apart_singleton] at ih ⊢
      rw [List.infix_cons_iff, not_or]
      exact ⟨h, ih⟩
    · rw [apart_cons hne] at ih ⊢
      rw [List.intercalate_cons_of_ne_nil hne] at htext
      have hfront : c :: (p ++ w.dropLast) <+: c :: t := by
        rw [← htext, List.cons_prefix_cons]
        exact ⟨rfl, append_dropLast_prefix p w _⟩
      rw [List.cons_append, List.infix_cons_iff, not_or]
      exact ⟨⟨fun hword => h (hword.trans hfront), ih.1⟩, ih.2⟩

/-- A piece ends at the first place of the word. -/
theorem cut_append (hw : w ≠ []) {p : Text} (h : ¬ w <:+: p ++ w.dropLast) (t : Text) :
    cut w (p ++ w ++ t) = p :: cut w t := by
  induction p with
  | nil => exact cut_word_append hw t
  | cons c p ih =>
    -- A place of the word in front would end within the next one.
    have hprefix : ¬ w <+: c :: p ++ w ++ t := fun hword => by
      have hle : w.length ≤ (c :: p ++ w.dropLast).length := by
        rw [List.length_append, List.length_cons, List.length_dropLast]
        omega
      have hfront := append_dropLast_prefix (c :: p) w t
      exact h (List.prefix_of_prefix_length_le hword hfront hle).isInfix
    rw [List.cons_append, List.infix_cons_iff, not_or] at h
    rw [List.cons_append, List.cons_append] at hprefix ⊢
    rw [cut_cons hprefix, ih h.2, List.modifyHead_cons]

theorem cut_of_not_infix (h : ¬ w <:+: t) : cut w t = [t] := by
  induction t with
  | nil => rfl
  | cons c t ih =>
    rw [List.infix_cons_iff, not_or] at h
    rw [cut_cons h.1, ih h.2, List.modifyHead_cons]

theorem cut_intercalate (hw : w ≠ []) {ps : List Text} (hne : ps ≠ []) (h : Apart w ps) :
    cut w (w.intercalate ps) = ps := by
  induction ps with
  | nil => exact absurd rfl hne
  | cons p ps ih =>
    rcases eq_or_ne ps [] with rfl | hps
    · rw [List.intercalate_singleton, cut_of_not_infix (apart_singleton.1 h)]
    · rw [apart_cons hps] at h
      rw [List.intercalate_cons_of_ne_nil hps, cut_append hw h.1, ih hps h.2]

/-- **What a text is cut into.** -/
theorem cut_eq_iff (hw : w ≠ []) {ps : List Text} (hne : ps ≠ []) :
    cut w t = ps ↔ w.intercalate ps = t ∧ Apart w ps := by
  constructor
  · rintro rfl
    exact ⟨intercalate_cut hw t, apart_cut hw t⟩
  · rintro ⟨rfl, h⟩
    exact cut_intercalate hw hne h

end JiraMarkup.Text
