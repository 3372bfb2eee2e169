/-
  Words in lines that are trimmed, put into lists, and rid of markers.

  * `infix_dropWhile`, `infix_trimEndWith`: trimming keeps a word that does not begin or end
    with white space;
  * `infix_mergeBullets_marker`: the lines of a list have the words of the lines of its body;
  * `infix_dropMarks`: dropping markers keeps words, though it may make new ones.
-/
import JiraMarkup.Proofs.Wiki.CodeHeader
import JiraMarkup.Proofs.Wiki.MarkedLines

namespace JiraMarkup.Wiki

/-- A word does not begin in a text without its first character. -/
theorem infix_append_of_notMem {w p t : Text} {a : Char} (hp : a ∉ p) :
    a :: w <:+: p ++ t ↔ a :: w <:+: t := by
  induction p with
  | nil => rfl
  | cons c p ih =>
    rw [List.mem_cons, not_or] at hp
    rw [List.cons_append, List.infix_cons_iff, ih hp.2]
    constructor
    · rintro (h | h)
      · rw [List.cons_prefix_cons] at h
        exact absurd h.1 hp.1
      · exact h
    · exact .inr

/-- A word does not end in a text without its last character. -/
theorem infix_append_right_of_notMem {w p t : Text} {a : Char} (hp : a ∉ p) :
    w ++ [a] <:+: t ++ p ↔ w ++ [a] <:+: t := by
  have hreverse : ∀ u : Text, w ++ [a] <:+: u ↔ a :: w.reverse <:+: u.reverse := fun u => by
    rw [← List.reverse_infix, List.reverse_append, List.reverse_singleton, List.singleton_append]
  rw [hreverse, hreverse, List.reverse_append]
  exact infix_append_of_notMem (by simpa using hp)

/-! ## Trimmed lines -/

theorem infix_dropWhile {w t : Text} {a : Char} {p : Char → Bool} (ha : p a = false)
    (h : a :: w <:+: t) : a :: w <:+: t.dropWhile p := by
  induction t with
  | nil => exact h
  | cons c t ih =>
    rw [List.dropWhile_cons]
    split
    · next hc =>
      refine ih ?_
      rcases List.infix_cons_iff.1 h with h | h
      · rw [List.cons_prefix_cons] at h
        rw [← h.1, ha] at hc
        cases hc
      · exact h
    · exact h

theorem infix_trimEndWith {w t : Text} {a : Char} {p : Char → Bool} (ha : p a = false)
    (h : w ++ [a] <:+: t) : w ++ [a] <:+: Text.trimEndWith p t := by
  rw [← List.reverse_infix, List.reverse_append] at h
  rw [Text.trimEndWith, ← List.reverse_infix, List.reverse_reverse, List.reverse_append]
  exact infix_dropWhile ha h

/-! ## Lines of lists -/

theorem infix_mergeRounds {w : Text} {a : Char} (hstar : a ≠ '*') (hspace : a ≠ ' ') (n : Nat)
    (line : Text) : a :: w <:+: mergeRounds n line ↔ a :: w <:+: line := by
  induction n generalizing line with
  | zero => rfl
  | succ n ih =>
    rw [mergeRounds]
    split
    · next merged h =>
      obtain ⟨stars, rest, hstars, rfl, rfl⟩ := mergeBullet?_eq_some h
      have hp : a ∉ stars := fun hm => hstar (hstars a hm)
      have hleft : a ∉ ['*', ' '] := by simp [hstar, hspace]
      have hright : a ∉ [' ', '*', ' '] := by simp [hstar, hspace]
      rw [ih, infix_append_of_notMem hp, infix_append_of_notMem hp]
      exact (infix_append_of_notMem (t := rest) hleft).trans
        (infix_append_of_notMem (t := rest) hright).symm
    · rfl

/-- The marker of a list and the joining of bullets make no words, and break none. -/
theorem infix_mergeBullets_marker {w : Text} {a : Char} (ha : a ∉ ['*', ' ', '#'])
    (ordered : Bool) (l : Text) :
    a :: w <:+: mergeBullets (marker ordered :: ' ' :: l) ↔ a :: w <:+: l := by
  simp only [List.mem_cons, List.not_mem_nil, or_false, not_or] at ha
  obtain ⟨hstar, hspace, hhash⟩ := ha
  have hp : a ∉ [marker ordered, ' '] := by
    cases ordered <;> simp [marker, hstar, hspace, hhash]
  rw [mergeBullets, infix_mergeRounds hstar hspace]
  exact infix_append_of_notMem (t := l) hp

/-! ## Lines without markers -/

theorem prefix_dropMarks {w t : Text} (hw : '#' ∉ w) (h : w <+: t) : w <+: dropMarks t := by
  induction t using dropMarks.induct generalizing w with
  | case1 t _ =>
    rw [eq_nil_of_prefix_cons hw h]
    exact List.nil_prefix
  | case2 c t hne ih =>
    rw [dropMarks.eq_2 c t hne]
    rcases List.prefix_cons_iff.1 h with rfl | ⟨w', rfl, h'⟩
    · exact List.nil_prefix
    · rw [List.mem_cons, not_or] at hw
      exact List.cons_prefix_cons.2 ⟨rfl, ih hw.2 h'⟩
  | case3 => exact h

/-- Words without number signs and spaces stay when the markers are dropped. -/
theorem infix_dropMarks {w t : Text} (hhash : '#' ∉ w) (hspace : ' ' ∉ w) (h : w <:+: t) :
    w <:+: dropMarks t := by
  induction t using dropMarks.induct with
  | case1 t ih =>
    rw [dropMarks]
    rcases List.infix_cons_iff.1 h with h | h
    · rw [eq_nil_of_prefix_cons hhash h]
      exact List.nil_infix
    rcases List.infix_cons_iff.1 h with h | h
    · rw [eq_nil_of_prefix_cons hspace h]
      exact List.nil_infix
    · exact ih h
  | case2 c t hne ih =>
    rcases List.infix_cons_iff.1 h with h | h
    · exact (prefix_dropMarks hhash h).isInfix
    · rw [dropMarks.eq_2 c t hne]
      exact List.infix_cons (ih h)
  | case3 => exact h

end JiraMarkup.Wiki
