/-
  Joining the bullets at the front of a line.

  * `starred depth t` is a line behind `depth` bullets, and `mergeBullet?_starred` what one round
    makes of it;
  * `bulletCount` is how many bullets a text begins with, and `behindBullets` what follows them;
  * `Joined line n joined`: `n` rounds, each of which joins a bullet, make `joined` of the line,
    where no more bullets are to be joined;
  * `joined_starred`: the bullets in front of a line take up all those that follow them, one in
    each round; `joined_of_not_starred`: no other line is changed.
-/
import JiraMarkup.Proofs.Text.Lines
import JiraMarkup.Wiki.Bullets

namespace JiraMarkup.Wiki

/-! ## One round -/

/-- Joining a bullet leaves out the space before it. -/
theorem mergeBullet?_eq_some {line merged : Text} (h : mergeBullet? line = some merged) :
    ∃ stars rest, (∀ c ∈ stars, c = '*') ∧ line = stars ++ ' ' :: '*' :: ' ' :: rest ∧
      merged = stars ++ '*' :: ' ' :: rest := by
  rw [mergeBullet?] at h
  split at h
  · simp at h
  · obtain ⟨rest, hrest, rfl⟩ := Option.map_eq_some_iff.1 h
    have hline := List.prefix_iff_eq_append.1 (List.takeWhile_prefix (l := line) (· == '*'))
    rw [Text.after?_eq_some.1 hrest] at hline
    refine ⟨_, rest, fun c hc => ?_, hline.symm, rfl⟩
    have hall : (line.takeWhile (· == '*')).all (· == '*') = true := List.all_takeWhile
    exact eq_of_beq (List.all_eq_true.1 hall c hc)

theorem mergeRounds_sublist (n : Nat) (line : Text) : List.Sublist (mergeRounds n line) line := by
  induction n generalizing line with
  | zero => exact .refl _
  | succ n ih =>
    rw [mergeRounds]
    split
    · next merged h =>
      obtain ⟨stars, rest, -, rfl, rfl⟩ := mergeBullet?_eq_some h
      exact (ih _).trans ((List.Sublist.refl stars).append ((List.Sublist.refl _).cons ' '))
    · exact .refl _

theorem mergeBullets_sublist (line : Text) : List.Sublist (mergeBullets line) line :=
  mergeRounds_sublist line.length line

/-- A line behind the bullets of `depth` lists, as Jira reads them. -/
def starred (depth : Nat) (t : Text) : Text := List.replicate depth '*' ++ ' ' :: t

/-- One round joins one more bullet to those in front. -/
theorem mergeBullet?_starred (d : Nat) (t : Text) :
    mergeBullet? (starred (d + 1) t) = (Text.after? "* " t).map (starred (d + 2)) := by
  have hstars : (starred (d + 1) t).takeWhile (· == '*') = List.replicate (d + 1) '*' := by
    rw [starred, List.takeWhile_append_of_pos (by simp)]
    simp
  have hrest : (starred (d + 1) t).drop (d + 1) = ' ' :: t :=
    List.drop_left' List.length_replicate
  have hafter : Text.after? " * " (' ' :: t) = Text.after? "* " t := rfl
  have hmore : (fun rest : Text => List.replicate (d + 1) '*' ++ '*' :: ' ' :: rest) =
      starred (d + 2) := by
    funext rest
    rw [starred, List.replicate_succ' (n := d + 1), List.append_assoc]
    rfl
  rw [mergeBullet?, hstars, if_neg (by simp), List.length_replicate, hrest, hafter, hmore]

theorem mergeRounds_of_none {line : Text} (h : mergeBullet? line = none) :
    ∀ n, mergeRounds n line = line
  | 0 => rfl
  | n + 1 => by simp [mergeRounds, h]

/-- More rounds than a line has characters change nothing. -/
theorem mergeRounds_of_length_le {n : Nat} {line : Text} (h : line.length ≤ n) :
    mergeRounds n line = mergeBullets line := by
  induction n generalizing line with
  | zero => rw [List.eq_nil_of_length_eq_zero (Nat.le_zero.1 h)]; rfl
  | succ n ih =>
    cases hline : mergeBullet? line with
    | none =>
      rw [mergeRounds, hline, mergeBullets]
      cases line.length <;> simp [mergeRounds, hline]
    | some merged =>
      obtain ⟨stars, rest, -, rfl, rfl⟩ := mergeBullet?_eq_some hline
      have hlength : (stars ++ ' ' :: '*' :: ' ' :: rest).length =
          (stars ++ '*' :: ' ' :: rest).length + 1 := by
        simp only [List.length_append, List.length_cons]
        omega
      rw [mergeRounds, hline, mergeBullets, hlength, mergeRounds, hline]
      rw [hlength] at h
      exact ih (by omega)

/-! ## Bullets at the front of a text -/

/-- So many bullets, each with a space. -/
def bullets (n : Nat) : Text := (List.replicate n ['*', ' ']).flatten

/-- How many bullets a text begins with. -/
def bulletCount : Text → Nat
  | '*' :: ' ' :: t => bulletCount t + 1
  | _ => 0

/-- What follows the bullets that a text begins with. -/
def behindBullets : Text → Text
  | '*' :: ' ' :: t => behindBullets t
  | t => t

theorem bullets_succ_append (n : Nat) (t : Text) :
    bullets (n + 1) ++ t = '*' :: ' ' :: (bullets n ++ t) := rfl

theorem bullets_append_behindBullets (t : Text) :
    bullets (bulletCount t) ++ behindBullets t = t := by
  induction t using bulletCount.induct with
  | case1 t ih => rw [bulletCount, behindBullets, bullets_succ_append, ih]
  | case2 t hne =>
    rw [bulletCount.eq_2 t hne, behindBullets.eq_2 t hne]
    rfl

/-- No bullet follows. -/
theorem after?_behindBullets (t : Text) : Text.after? "* " (behindBullets t) = none := by
  induction t using bulletCount.induct with
  | case1 t ih => rwa [behindBullets]
  | case2 t hne =>
    rw [behindBullets.eq_2 t hne, Option.eq_none_iff_forall_ne_some]
    intro rest h
    exact hne rest (Text.after?_eq_some.1 h)

/-- The bullets are as many as there can be. -/
theorem le_bulletCount {t : Text} {m : Nat} {rest : Text} (h : t = bullets m ++ rest) :
    m ≤ bulletCount t := by
  induction m generalizing t with
  | zero => exact Nat.zero_le _
  | succ m ih =>
    rw [h, bullets_succ_append, bulletCount]
    exact Nat.succ_le_succ (ih rfl)

/-! ## Rounds -/

/-- `n` rounds, each of which joins a bullet, lead from a line to one without bullets to join. -/
inductive Joined : (line : Text) → (n : Nat) → (joined : Text) → Prop where
  | done {line : Text} (h : mergeBullet? line = none) : Joined line 0 line
  | round {line merged joined : Text} {n : Nat} (h : mergeBullet? line = some merged)
      (hrest : Joined merged n joined) : Joined line (n + 1) joined

namespace Joined

variable {line joined : Text} {n : Nat}

/-- More rounds than are needed change nothing. -/
theorem mergeRounds_add (h : Joined line n joined) (k : Nat) :
    mergeRounds (n + k) line = joined := by
  induction h with
  | done h => exact mergeRounds_of_none h _
  | round h _ ih =>
    rw [Nat.add_right_comm, mergeRounds, h]
    exact ih

/-- A line has enough characters for all rounds. -/
theorem mergeBullets_eq (h : Joined line n joined) : mergeBullets line = joined := by
  rw [← mergeRounds_of_length_le (Nat.le_add_left line.length n)]
  exact h.mergeRounds_add _

theorem mergeBullet?_eq_none (h : Joined line n joined) : mergeBullet? joined = none := by
  induction h with
  | done h => exact h
  | round _ _ ih => exact ih

end Joined

/-- **Bullets in front of a line take up those that follow them**, one in each round. -/
theorem joined_starred (d : Nat) (t : Text) : Joined (starred (d + 1) t) (bulletCount t)
    (starred (d + 1 + bulletCount t) (behindBullets t)) := by
  have hnone := after?_behindBullets t
  induction t using bulletCount.induct generalizing d with
  | case1 t ih =>
    have hround : mergeBullet? (starred (d + 1) ('*' :: ' ' :: t)) = some (starred (d + 2) t) :=
      mergeBullet?_starred d _
    have hcount : d + 1 + (bulletCount t + 1) = d + 1 + 1 + bulletCount t := by omega
    rw [bulletCount, behindBullets, hcount]
    exact .round hround (ih (d + 1) (after?_behindBullets t))
  | case2 t hne =>
    rw [behindBullets.eq_2 t hne] at hnone
    rw [bulletCount.eq_2 t hne, behindBullets.eq_2 t hne]
    exact .done ((mergeBullet?_starred d t).trans (by rw [hnone]; rfl))

/-- A line with a bullet to join has bullets in front. -/
theorem exists_starred_of_mergeBullet? {line merged : Text} (h : mergeBullet? line = some merged) :
    ∃ d t, line = starred (d + 1) t := by
  obtain ⟨stars, rest, hstars, rfl, -⟩ := mergeBullet?_eq_some h
  have hreplicate : stars = List.replicate stars.length '*' := List.eq_replicate_iff.2 ⟨rfl, hstars⟩
  rcases hlength : stars.length with _ | d
  · rw [List.eq_nil_of_length_eq_zero hlength] at h
    cases h
  · rw [hreplicate, hlength]
    exact ⟨d, '*' :: ' ' :: rest, rfl⟩

theorem joined_of_not_starred {line : Text} (h : ∀ d t, line ≠ starred (d + 1) t) :
    Joined line 0 line := by
  refine .done (Option.eq_none_iff_forall_ne_some.2 fun merged hmerged => ?_)
  obtain ⟨d, t, hline⟩ := exists_starred_of_mergeBullet? hmerged
  exact h d t hline

/-- The rounds come to an end. -/
theorem exists_joined_mergeBullets (line : Text) : ∃ n, Joined line n (mergeBullets line) := by
  by_cases h : ∃ d t, line = starred (d + 1) t
  · obtain ⟨d, t, rfl⟩ := h
    have hjoined := joined_starred d t
    exact ⟨bulletCount t, hjoined.mergeBullets_eq ▸ hjoined⟩
  · have hjoined := joined_of_not_starred fun d t hline => h ⟨d, t, hline⟩
    exact ⟨0, by rwa [hjoined.mergeBullets_eq]⟩

theorem mergeBullets_mergeBullets (line : Text) :
    mergeBullets (mergeBullets line) = mergeBullets line := by
  obtain ⟨n, h⟩ := exists_joined_mergeBullets line
  exact (Joined.done h.mergeBullet?_eq_none).mergeBullets_eq

/-- What becomes of a line with bullets in front. -/
theorem mergeBullets_starred (d : Nat) (t : Text) : mergeBullets (starred (d + 1) t) =
    starred (d + 1 + bulletCount t) (behindBullets t) := (joined_starred d t).mergeBullets_eq

/-- A bullet stays as it is in front of a text that does not begin with one. -/
theorem mergeBullets_bullet {t : Text} (h : Text.beginsWith "* " t = false) :
    mergeBullets ('*' :: ' ' :: t) = '*' :: ' ' :: t := by
  have hnone : Text.after? "* " t = none := by simpa [Text.beginsWith] using h
  exact mergeRounds_of_none ((mergeBullet?_starred 0 t).trans (by rw [hnone]; rfl)) _

/-- Asterisks that no space follows are no bullets, and neither is any other character. -/
theorem replicate_append_ne_starred {c : Char} (hstar : c ≠ '*') (hspace : c ≠ ' ') (n : Nat)
    (t : Text) (d : Nat) (u : Text) : List.replicate n '*' ++ c :: t ≠ starred (d + 1) u := by
  intro h
  have htake := congrArg (List.dropWhile (· == '*')) h
  rw [starred, List.dropWhile_append_of_pos (by simp), List.dropWhile_append_of_pos (by simp),
    List.dropWhile_cons_of_neg (by simpa using hstar), List.dropWhile_cons_of_neg (by decide)]
    at htake
  exact hspace (List.cons.inj htake).1

end JiraMarkup.Wiki
