/-
  The two repairs in the other order.

  Escaping leaves the marks of a text alone, so that the first pass has its own flags after it as
  well. The passes rewrite different lines, with one exception: a line with the closing word that
  has no block to close loses its markers in one and is escaped in the other.

  * `clearLine_escapeLine_iff`: on any other line the order does not matter, and on that one
    exactly if it does not for the markers and pairs in it;
  * `clearListMarks_escapeOutsideCode_iff` says the same of texts;
  * `repair_either_order`: without markers on the lines that open or close code blocks, either
    order gives the same text, and each line is rewritten by one of the passes at most.
-/
import JiraMarkup.Proofs.Wiki.UnderscoreRuns

namespace JiraMarkup.Wiki

variable {l : Text}

/-! ## One line -/

/-- In code nothing is escaped. -/
theorem escapeLine_inCode (l : Text) : escapeLine true l = l := if_pos (.inl rfl)

theorem escapeLine_of_opens (h : codeMark? l = some .opens) (inCode : Bool) :
    escapeLine inCode l = l := if_pos (.inr h)

theorem escapeLine_outside (h : codeMark? l ≠ some .opens) :
    escapeLine false l = escapePairs l := if_neg (by simp [h])

/-- Outside code, only marks are cleared. -/
theorem clearLine_outside (h : codeMark? l = none) : clearLine false l = l := if_pos h

/-- **Where the passes meet**: on a line with the closing word and no block to close. -/
theorem clearLine_escapeLine_iff (h : StaysOpen l) (inCode : Bool) :
    clearLine inCode (escapeLine inCode l) = escapeLine inCode (clearLine inCode l) ↔
      (inCode = false → codeMark? l = some .closes →
        dropMarks (escapePairs l) = escapePairs (dropMarks l)) := by
  cases inCode with
  | true => simp [escapeLine_inCode]
  | false =>
    have hcleared := codeMark?_clearLine h false
    rcases hl : codeMark? l with _ | _ | _
    · have hescaped : codeMark? (escapeLine false l) = none := by rwa [codeMark?_escapeLine]
      simp [clearLine_outside hl, clearLine_outside hescaped]
    · simp [escapeLine_of_opens hl, escapeLine_of_opens (hcleared.trans hl)]
    · have hmark : codeMark? l ≠ none := by simp [hl]
      have hopens : codeMark? l ≠ some .opens := by simp [hl]
      have hescaped : codeMark? (escapePairs l) ≠ none := by rwa [codeMark?_escapePairs]
      rw [escapeLine_outside hopens, escapeLine_outside (by rwa [hcleared]),
        clearLine_of_ne_none hescaped, clearLine_of_ne_none hmark]
      simp

/-- A line that has no markers if it is a mark, after the first pass. -/
theorem clearLine_unmarked (h : codeMark? l ≠ none → dropMarks l = l) (inCode : Bool) :
    clearLine inCode l = if inCode = true ∧ codeMark? l = none then dropHash l else l := by
  by_cases hl : codeMark? l = none
  · cases inCode <;> simp [clearLine, hl]
  · rw [clearLine_of_ne_none hl, h hl, if_neg fun hnone => hl hnone.2]

/-- Such a line after both passes. -/
theorem escapeLine_clearLine_unmarked (hstays : StaysOpen l)
    (h : codeMark? l ≠ none → dropMarks l = l) (inCode : Bool) :
    escapeLine inCode (clearLine inCode l) =
      if inCode = true ∨ codeMark? l = some .opens then
        if codeMark? l = none then dropHash l else l
      else escapePairs l := by
  rw [escapeLine, codeMark?_clearLine hstays, clearLine_unmarked h]
  cases inCode <;> by_cases hopens : codeMark? l = some .opens <;> simp [hopens]

/-! ## Texts -/

/-- Both passes go on with the flag that the text gives them, in either order. -/
theorem clearLines_escapeLines_iff (inCode : Bool) {ls : List Text} (h : ∀ l ∈ ls, StaysOpen l) :
    clearLines inCode (escapeLines inCode ls) = escapeLines inCode (clearLines inCode ls) ↔
      ∀ as l bs, ls = as ++ l :: bs → openAfterAll inCode as = false →
        codeMark? l = some .closes → dropMarks (escapePairs l) = escapePairs (dropMarks l) := by
  induction ls generalizing inCode with
  | nil => simp [clearLines, escapeLines]
  | cons x ls ih =>
    rw [List.forall_mem_cons] at h
    rw [escapeLines_cons, clearLines_cons, clearLines_cons, escapeLines_cons, openAfter_escapeLine,
      openAfter_clearLine h.1, List.cons.injEq, clearLine_escapeLine_iff h.1, ih _ h.2,
      forall_places_cons]
    rfl

theorem lines_clearListMarks_escapeOutsideCode (t : Text) :
    Text.lines (clearListMarks (escapeOutsideCode t)) =
      clearLines false (escapeLines false (Text.lines t)) := by
  rw [lines_clearListMarks, lines_escapeOutsideCode]

/-- The line `l` after the lines `before` has the closing word, and no block is open for it to
    close, as the last mark before it opens none. -/
def Unmatched (before : List Text) (l : Text) : Prop :=
  (before.filterMap codeMark?).getLast? ≠ some .opens ∧ codeMark? l = some .closes

theorem unmatched_iff {before : List Text} :
    Unmatched before l ↔ openAfterAll false before = false ∧ codeMark? l = some .closes := by
  rw [← Bool.not_eq_true, openAfterAll_iff, Unmatched]

/-- **When the order does not matter.** If the first pass turns no line that opens a block into
    one that closes a block, it does not matter exactly if it does not on the closing lines that
    close nothing. -/
theorem clearListMarks_escapeOutsideCode_iff {t : Text} (h : ∀ l ∈ Text.lines t, StaysOpen l) :
    clearListMarks (escapeOutsideCode t) = repair t ↔
      ∀ as l bs, Text.lines t = as ++ l :: bs → Unmatched as l →
        dropMarks (escapePairs l) = escapePairs (dropMarks l) := by
  rw [← Text.lines_injective.eq_iff, lines_clearListMarks_escapeOutsideCode, lines_repair,
    repairLines, clearLines_escapeLines_iff false h]
  simp only [unmatched_iff, and_imp]

/-- **The repairs may change places** in a text whose lines that open or close code blocks hold
    no markers. Then either order rewrites each line once at most: outside code blocks, on all
    lines that open none, pairs of underscores are escaped, and in code one number sign is
    dropped. -/
theorem repair_either_order {t : Text}
    (h : ∀ l ∈ Text.lines t, openingWord <:+: l → ¬ "# ".toList <:+: l) :
    clearListMarks (escapeOutsideCode t) = escapeOutsideCode (clearListMarks t) ∧
      ∀ as l bs, Text.lines t = as ++ l :: bs →
        (Text.lines (clearListMarks (escapeOutsideCode t)))[as.length]? =
          some (if Rewrites as l then escapePairs l
            else if codeMark? l = none then dropHash l else l) := by
  have hunmarked : ∀ l ∈ Text.lines t, codeMark? l ≠ none → ¬ "# ".toList <:+: l :=
    fun l hl hmark => h l hl (not_not.1 (mt codeMark?_eq_none.2 hmark))
  have hstays : ∀ l ∈ Text.lines t, StaysOpen l := fun l hl hopens => by
    rw [dropMarks_eq_self (h l hl hopens.1)]
    exact hopens.2
  have hcomm : clearListMarks (escapeOutsideCode t) = repair t := by
    refine (clearListMarks_escapeOutsideCode_iff hstays).2 fun as l bs hls hl => ?_
    have hline : ¬ "# ".toList <:+: l := hunmarked l (by simp [hls]) (by simp [hl.2])
    -- Escaping a line does not give it a marker.
    have hescaped : ¬ "# ".toList <:+: escapePairs l := by
      rwa [infix_escapePairs_iff (by decide) (by decide)]
    rw [dropMarks_eq_self hescaped, dropMarks_eq_self hline]
  refine ⟨hcomm, fun as l bs hls => ?_⟩
  have hl : l ∈ Text.lines t := by simp [hls]
  have has : ∀ l' ∈ as, StaysOpen l' := fun l' hl' => hstays l' (by simp [hls, hl'])
  rw [hcomm, lines_repair, hls, getElem?_repairLines has,
    escapeLine_clearLine_unmarked (hstays l hl) fun hmark =>
      dropMarks_eq_self (hunmarked l hl hmark)]
  by_cases hrewrites : Rewrites as l
  · rw [if_pos hrewrites, if_neg (rewrites_iff.1 hrewrites)]
  · rw [if_neg hrewrites, if_pos (not_not.1 (mt rewrites_iff.2 hrewrites))]

/-- Code with a number sign and underscores, and a closing line behind it that closes nothing. -/
theorem repair_either_order_unmatched :
    let t : Text := "a__b\n\x7bcode:sql\x7d\n#x__y\n\x7bcode\x7d\n\x7b\x7bcode\x7d\x7d c__d"
    (∀ l ∈ Text.lines t, openingWord <:+: l → ¬ "# ".toList <:+: l) ∧
      clearListMarks (escapeOutsideCode t) = escapeOutsideCode (clearListMarks t) ∧
      (Text.lines (clearListMarks (escapeOutsideCode t)))[4]? =
        some "\x7b\x7bcode\x7d\x7d c\\_\\_d".toList := by
  intro t
  have h : ∀ l ∈ Text.lines t, openingWord <:+: l → ¬ "# ".toList <:+: l := by decide
  have hlines : Text.lines t =
      (Text.lines t).take 4 ++ "\x7b\x7bcode\x7d\x7d c__d".toList :: [] := by decide
  obtain ⟨hcomm, hline⟩ := repair_either_order h
  exact ⟨h, hcomm, hline _ _ _ hlines⟩

/-- A marker between two underscores, on a line that closes nothing, hides them from the pass that
    comes first. -/
example : clearListMarks (escapeOutsideCode "\x7bcode\x7d_# _") ≠
    escapeOutsideCode (clearListMarks "\x7bcode\x7d_# _") := by decide

end JiraMarkup.Wiki
