/-
  The lines of a list, each behind its marker.

  * `listLine` is what becomes of a line of the body, and `list_eq` what becomes of the whole
    list;
  * `MarkerLine` is a line of a list with the text behind its marker; `markerLine_mergeBullets`
    says that the lines that a list writes are such, and `filled_lines_list` that there are no
    others.
-/
import JiraMarkup.Proofs.Wiki.JoinedBullets
import JiraMarkup.Wiki.Jira

namespace JiraMarkup.Wiki

open Text (filled)

/-! ## Closed form -/

/-- A line of a list: behind the marker if the list is ordered, and behind a bullet more than it
    has already if not. -/
def listLine (ordered : Bool) (l : Text) : Text :=
  if ordered then '#' :: ' ' :: l else starred (bulletCount l + 1) (behindBullets l)

theorem mergeBullets_marker (ordered : Bool) (l : Text) :
    mergeBullets (marker ordered :: ' ' :: l) = listLine ordered l := by
  cases ordered with
  | true =>
    have hnone : mergeBullet? ('#' :: ' ' :: l) = none := rfl
    exact mergeRounds_of_none hnone _
  | false =>
    have h := mergeBullets_starred 0 l
    rw [Nat.zero_add, Nat.add_comm 1] at h
    exact h

theorem listLines_eq (body : Text) (ordered : Bool) : listLines body ordered =
    (filled (Text.lines (Text.trimWhite body))).map (listLine ordered) := by
  simp only [listLines, mergeBullets_marker]
  rfl

/-- **Lists in closed form.** A list is an empty line, a line for each filled line of its trimmed
    body, in their order, and another empty line. A line comes behind the marker if the list is
    ordered. If not, all bullets that it begins with are joined to the one put in front.

    Joining bullets ends on any line: in front of it, each round joins one of the bullets that
    follow, and there are as many rounds as such bullets. What is behind them stays as it is, and
    so does a line without bullets in front: with a number sign or any other character, or with
    asterisks that no space follows. Once they are joined, there is nothing to join. -/
theorem list_eq (body : Text) (ordered : Bool) :
    list body ordered = '\n' :: (Text.unlines
        ((filled (Text.lines (Text.trimWhite body))).map (listLine ordered)) ++ ['\n', '\n']) ∧
      (∀ l, l = bullets (bulletCount l) ++ behindBullets l ∧
        ∀ m rest, l = bullets m ++ rest → m ≤ bulletCount l) ∧
      (∀ d t, Joined (starred (d + 1) t) (bulletCount t) (mergeBullets (starred (d + 1) t)) ∧
        mergeBullets (starred (d + 1) t) = starred (d + 1 + bulletCount t) (behindBullets t)) ∧
      (∀ line, (∀ d t, line ≠ starred (d + 1) t) → Joined line 0 (mergeBullets line) ∧
        mergeBullets line = line) ∧
      (∀ line, mergeBullets (mergeBullets line) = mergeBullets line) ∧
      (∀ n c t, c ≠ '*' → c ≠ ' ' → mergeBullets (List.replicate n '*' ++ c :: t) =
        List.replicate n '*' ++ c :: t) := by
  have hkeep : ∀ line, (∀ d t, line ≠ starred (d + 1) t) → mergeBullets line = line :=
    fun line h => (joined_of_not_starred h).mergeBullets_eq
  refine ⟨?_, fun l => ⟨(bullets_append_behindBullets l).symm, fun m rest => le_bulletCount⟩,
    fun d t => ?_, fun line h => ?_, mergeBullets_mergeBullets, fun n c t hstar hspace => ?_⟩
  · rw [← listLines_eq]
    rfl
  · have hjoined := joined_starred d t
    rw [hjoined.mergeBullets_eq]
    exact ⟨hjoined, rfl⟩
  · rw [hkeep line h]
    exact ⟨joined_of_not_starred h, rfl⟩
  · exact hkeep _ (replicate_append_ne_starred hstar hspace n t)

example : listLine false "* * *a* b" = "*** *a* b".toList := by decide

/-! ## Marker lines -/

/-- A line with markers in front and a space behind them. -/
def BehindMarkers (ordered : Bool) (line : Text) : Prop :=
  ∃ n rest, line = List.replicate (n + 1) (marker ordered) ++ ' ' :: rest

/-- `line` is a line of a list with the text `l`. If the list is ordered, or the text does not
    begin with a bullet of its own, it is the marker, a space and the text. -/
structure MarkerLine (ordered : Bool) (l line : Text) : Prop where
  /-- The marker is in front, maybe with others. -/
  front : BehindMarkers ordered line
  /-- The text follows. -/
  line_eq : ordered = true ∨ Text.beginsWith "* " l = false → line = marker ordered :: ' ' :: l

/-- **The lines that a list writes are marker lines.** -/
theorem markerLine_mergeBullets (ordered : Bool) (l : Text) :
    MarkerLine ordered l (mergeBullets (marker ordered :: ' ' :: l)) := by
  cases ordered with
  | true =>
    have hline := mergeBullets_marker true l
    exact ⟨⟨0, l, hline⟩, fun _ => hline⟩
  | false =>
    refine ⟨⟨bulletCount l, behindBullets l, mergeBullets_marker false l⟩, fun h => ?_⟩
    exact mergeBullets_bullet (by simpa using h)

theorem MarkerLine.ne_nil {ordered : Bool} {l line : Text} (h : MarkerLine ordered l line) :
    line ≠ [] := by
  obtain ⟨n, rest, rfl⟩ := h.front
  simp

theorem newline_notMem_mergeBullets (ordered : Bool) {l : Text} (h : '\n' ∉ l) :
    '\n' ∉ mergeBullets (marker ordered :: ' ' :: l) := by
  intro hm
  have hmarker : '\n' ≠ marker ordered := by cases ordered <;> decide
  simpa [hmarker, h] using (mergeBullets_sublist _).mem hm

theorem newline_notMem_listLines {body : Text} {ordered : Bool} {line : Text}
    (h : line ∈ listLines body ordered) : '\n' ∉ line := by
  obtain ⟨l, hl, rfl⟩ := List.mem_map.1 h
  have hnl : '\n' ∉ l := Text.newline_notMem_of_mem_lines (List.mem_filter.1 hl).1
  exact newline_notMem_mergeBullets ordered hnl

/-- All lines of a list that has a filled line. -/
theorem lines_list {body : Text} {ordered : Bool} (h : listLines body ordered ≠ []) :
    Text.lines (list body ordered) = [] :: (listLines body ordered ++ [[], []]) := by
  have hlist : list body ordered =
      '\n' :: (Text.unlines (listLines body ordered) ++ ['\n', '\n']) := rfl
  rw [hlist, Text.lines_newline, Text.lines_append_newline,
    Text.lines_unlines h fun _ => newline_notMem_listLines]
  rfl

/-- **The filled lines of a list are the lines that it writes.** -/
theorem filled_lines_list (body : Text) (ordered : Bool) :
    filled (Text.lines (list body ordered)) = listLines body ordered := by
  have hne : ∀ line ∈ listLines body ordered, line ≠ [] :=
    List.forall_mem_map.2 fun l _ => (markerLine_mergeBullets ordered l).ne_nil
  have hlist : list body ordered =
      '\n' :: (Text.unlines (listLines body ordered) ++ ['\n', '\n']) := rfl
  rw [hlist, Text.lines_newline, Text.filled_cons_nil, Text.lines_append_newline,
    Text.filled_append, Text.filled_lines_unlines fun _ => newline_notMem_listLines,
    Text.filled_eq_self hne]
  exact List.append_nil _

end JiraMarkup.Wiki
