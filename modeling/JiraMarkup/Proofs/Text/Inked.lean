/-
  Texts without their white space.

  * `inked` is such a text, and `inked_trimWhite` says that trimming does not change it;
  * `filter_unlines` and `unlines_sublist` take texts apart into lines, for whatever characters
    are kept of them.
-/
import JiraMarkup.Proofs.Text.Lines
import Mathlib.Data.List.Flatten

namespace JiraMarkup

/-! ## Text without white space -/

/-- A text without its white space. -/
def inked (t : Text) : Text := t.filter fun c => !isWhite c

@[simp] theorem inked_append (a b : Text) : inked (a ++ b) = inked a ++ inked b :=
  List.filter_append ..

@[simp] theorem inked_inked (t : Text) : inked (inked t) = inked t := by
  rw [inked, inked, List.filter_filter]
  simp

theorem inked_sublist (t : Text) : List.Sublist (inked t) t := List.filter_sublist

/-- A text kept in one that is kept. -/
theorem inked_sublist_trans {a b c : Text} (hab : List.Sublist (inked a) b)
    (hbc : List.Sublist (inked b) c) : List.Sublist (inked a) c := by
  have h : List.Sublist (inked (inked a)) (inked b) := hab.filter _
  rw [inked_inked] at h
  exact h.trans hbc

/-- Parts that are kept one after the other. -/
theorem inked_flatMap_sublist {α : Type} {f g : α → Text} (xs : List α)
    (h : ∀ x ∈ xs, List.Sublist (inked (f x)) (g x)) :
    List.Sublist (inked (xs.flatMap f)) (xs.flatMap g) := by
  have hf : inked (xs.flatMap f) = xs.flatMap fun x => inked (f x) := List.filter_flatMap ..
  rw [hf]
  exact .flatMap_right xs h

/-! ## Lines -/

namespace Text

variable {p : Char → Bool}

/-- The characters of some lines, newlines apart. -/
theorem filter_unlines (hnl : p '\n' = false) (ls : List Text) :
    (unlines ls).filter p = ls.flatMap fun l => l.filter p := by
  induction ls with
  | nil => rfl
  | cons l ls ih =>
    by_cases h : ls = []
    · subst h
      simp [unlines]
    · rw [unlines_cons h, List.filter_append, List.filter_cons_of_neg (by simp [hnl]), ih,
        List.flatMap_cons]

theorem filter_eq_flatMap_lines (hnl : p '\n' = false) (t : Text) :
    t.filter p = (lines t).flatMap fun l => l.filter p := by
  rw [← filter_unlines hnl, unlines_lines]

/-- Empty lines hold no characters. -/
theorem flatMap_filled (f : Text → Text) (hf : f [] = []) (ls : List Text) :
    (filled ls).flatMap f = ls.flatMap f := by
  induction ls with
  | nil => rfl
  | cons l ls ih =>
    by_cases h : l = []
    · rw [h, filled_cons_nil, ih, List.flatMap_cons, hf, List.nil_append]
    · rw [filled_cons h, List.flatMap_cons, List.flatMap_cons, ih]

/-- Lines that each go into another one. -/
theorem unlines_sublist {ls ls' : List Text} (h : List.Forall₂ List.Sublist ls ls') :
    List.Sublist (unlines ls) (unlines ls') := by
  induction h with
  | nil => exact .refl _
  | @cons l l' ls ls' hl hls ih =>
    by_cases hne : ls = []
    · subst hne
      cases hls
      exact hl
    · have hne' : ls' ≠ [] := by
        rintro rfl
        cases hls
        exact hne rfl
      rw [unlines_cons hne, unlines_cons hne']
      exact hl.append (ih.cons_cons _)

/-! ## Trimming -/

theorem inked_dropWhile (t : Text) : inked (t.dropWhile isWhite) = inked t := by
  induction t with
  | nil => rfl
  | cons c t ih =>
    by_cases h : isWhite c = true
    · rw [List.dropWhile_cons_of_pos h, ih, inked, inked, List.filter_cons_of_neg (by simp [h])]
    · rw [List.dropWhile_cons_of_neg h]

theorem inked_reverse (t : Text) : inked t.reverse = (inked t).reverse := List.filter_reverse ..

theorem inked_trimWhite (t : Text) : inked (trimWhite t) = inked t := by
  rw [trimWhite, trimEndWith, inked_reverse, inked_dropWhile, inked_reverse, List.reverse_reverse,
    inked_dropWhile]

end Text

end JiraMarkup
