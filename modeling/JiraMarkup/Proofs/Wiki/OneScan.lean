/-
  The two repairs as one scan.

  Each pass keeps a flag of its own, and the second reads lines that the first has changed.
  Dropping markers never takes a mark from a line and never gives it one, but it may turn a line
  that opens a code block into one that closes a block. Without such lines one flag is enough.

  * `scanFlags` are the flags that a pass has before each line and at the end;
    `clearLines_eq_zipWith` and `escapeLines_eq_zipWith` say that a pass does nothing but give
    each line its flag;
  * `scanFlags_clearLines_iff`: both passes have the same flags exactly if every line that opens
    a block does so without its markers too (`StaysOpen`);
  * `repair_one_scan`: then one flag tells what comes of each line (`RepairedWith`), and it is up
    exactly where the last mark before the line opens a block.
-/
import JiraMarkup.Proofs.Wiki.CodeRecognition

namespace JiraMarkup.Wiki

/-! ## Flags -/

/-- The flags that a pass has before each line and at the end; `inCode` is the first of them. -/
def scanFlags (inCode : Bool) : List Text → List Bool
  | [] => [inCode]
  | l :: ls => inCode :: scanFlags (openAfter inCode l) ls

theorem head?_scanFlags (inCode : Bool) (ls : List Text) :
    (scanFlags inCode ls).head? = some inCode := by cases ls <;> rfl

theorem clearLines_eq_zipWith (inCode : Bool) (ls : List Text) :
    clearLines inCode ls = List.zipWith clearLine (scanFlags inCode ls) ls := by
  induction ls generalizing inCode with
  | nil => rfl
  | cons l ls ih => rw [clearLines_cons, ih, scanFlags, List.zipWith_cons_cons]

theorem escapeLines_eq_zipWith (inCode : Bool) (ls : List Text) :
    escapeLines inCode ls = List.zipWith escapeLine (scanFlags inCode ls) ls := by
  induction ls generalizing inCode with
  | nil => rfl
  | cons l ls ih => rw [escapeLines_cons, ih, scanFlags, List.zipWith_cons_cons]

/-- **The flag is up after lines the last mark of which opens a block.** -/
theorem openAfterAll_iff (ls : List Text) :
    openAfterAll false ls = true ↔ (ls.filterMap codeMark?).getLast? = some .opens := by
  induction ls using List.reverseRecOn with
  | nil => simp [openAfterAll]
  | append_singleton ls l ih =>
    have hlast : openAfterAll false (ls ++ [l]) = openAfter (openAfterAll false ls) l := by
      simp [openAfterAll]
    rw [hlast, List.filterMap_append]
    rcases hl : codeMark? l with _ | mark
    · rw [openAfter_of_none hl, ih, List.filterMap_cons_none hl, List.filterMap_nil,
        List.append_nil]
    · rw [openAfter_of_mark (by simp [hl]), hl, List.filterMap_cons_some hl, List.filterMap_nil,
        List.getLast?_concat, beq_iff_eq]

/-! ## Lines after the first pass -/

/-- A line that opens a block does so without its markers too. Other lines do not matter. -/
def StaysOpen (l : Text) : Prop :=
  openingWord <:+: l ∧ ¬ closingWord <:+: l → ¬ closingWord <:+: dropMarks l

instance : DecidablePred StaysOpen := fun l =>
  inferInstanceAs (Decidable (openingWord <:+: l ∧ ¬ closingWord <:+: l → _))

variable {l : Text}

theorem codeMark?_clearLine_of_none (h : codeMark? l = none) (inCode : Bool) :
    codeMark? (clearLine inCode l) = none := by
  rw [clearLine, if_pos h]
  split
  · rw [codeMark?_eq_none] at h ⊢
    intro hword
    exact h (hword.trans (dropHash_suffix l).isInfix)
  · exact h

theorem codeMark?_clearLine (h : StaysOpen l) (inCode : Bool) :
    codeMark? (clearLine inCode l) = codeMark? l := by
  rcases hl : codeMark? l with _ | _ | _
  · exact codeMark?_clearLine_of_none hl inCode
  · rw [clearLine_of_ne_none (by simp [hl])]
    rw [codeMark?_eq_opens] at hl ⊢
    exact ⟨openingWord_infix_dropMarks hl.1, h hl⟩
  · rw [clearLine_of_ne_none (by simp [hl])]
    exact codeMark?_dropMarks_of_closes hl

/-- A line that opens a block and does not stay so closes one for the second pass. -/
theorem openAfter_of_not_staysOpen (h : ¬ StaysOpen l) (inClear inEscape : Bool) :
    openAfter inClear l = true ∧ openAfter inEscape (clearLine inClear l) = false := by
  rw [StaysOpen, Classical.not_imp, not_not, ← codeMark?_eq_opens, ← codeMark?_eq_closes] at h
  obtain ⟨hopens, hcloses⟩ := h
  refine ⟨openAfter_of_opens hopens inClear, ?_⟩
  rw [clearLine_of_ne_none (by simp [hopens])]
  exact openAfter_of_closes hcloses inEscape

theorem openAfter_clearLine (h : StaysOpen l) (inClear inCode : Bool) :
    openAfter inCode (clearLine inClear l) = openAfter inCode l := by
  rw [openAfter, codeMark?_clearLine h, openAfter]

/-! ## Both passes -/

/-- **When both passes have the same flags.** They part at the first line that the first pass
    takes for one that opens a block and the second for one that closes a block. -/
theorem scanFlags_clearLines_iff (inCode : Bool) (ls : List Text) :
    scanFlags inCode (clearLines inCode ls) = scanFlags inCode ls ↔ ∀ l ∈ ls, StaysOpen l := by
  induction ls generalizing inCode with
  | nil => simp [clearLines]
  | cons l ls ih =>
    rw [clearLines_cons, scanFlags, scanFlags, List.cons.injEq, and_iff_right rfl,
      List.forall_mem_cons]
    by_cases h : StaysOpen l
    · rw [openAfter_clearLine h, ih, and_iff_right h]
    · obtain ⟨hclear, hescape⟩ := openAfter_of_not_staysOpen h inCode inCode
      constructor
      · intro heq
        have hhead := congrArg List.head? heq
        rw [head?_scanFlags, head?_scanFlags, hclear, hescape] at hhead
        cases hhead
      · rintro ⟨hl, -⟩
        exact absurd hl h

theorem openAfterAll_clearLines (inCode : Bool) {ls : List Text} (h : ∀ l ∈ ls, StaysOpen l) :
    openAfterAll inCode (clearLines inCode ls) = openAfterAll inCode ls := by
  induction ls generalizing inCode with
  | nil => rfl
  | cons l ls ih =>
    rw [List.forall_mem_cons] at h
    rw [clearLines_cons, openAfterAll, List.foldl_cons, openAfter_clearLine h.1]
    exact ih _ h.2

/-- What comes of a line if both passes have the flag `inCode` before it. -/
structure RepairedWith (inCode : Bool) (l l' : Text) : Prop where
  /-- A line that opens a block loses its markers. -/
  opening : openingWord <:+: l → ¬ closingWord <:+: l → l' = dropMarks l
  /-- So does one with the closing word; it is escaped if there is nothing to close. -/
  closing : closingWord <:+: l → l' = if inCode then dropMarks l else escapePairs (dropMarks l)
  /-- Any other line is code, and loses one number sign, or is escaped. -/
  plain : ¬ openingWord <:+: l → l' = if inCode then dropHash l else escapePairs l

theorem repairedWith_escapeLine (h : StaysOpen l) (inCode : Bool) :
    RepairedWith inCode l (escapeLine inCode (clearLine inCode l)) := by
  have hmark := codeMark?_clearLine h inCode
  refine ⟨fun hopen hclose => ?_, fun hclose => ?_, fun hplain => ?_⟩
  · have hl : codeMark? l = some .opens := codeMark?_eq_opens.2 ⟨hopen, hclose⟩
    rw [escapeLine, if_pos (.inr (hmark.trans hl)), clearLine_of_ne_none (by simp [hl])]
  · have hl : codeMark? l = some .closes := codeMark?_eq_closes.2 hclose
    rw [escapeLine, hmark, hl, clearLine_of_ne_none (by simp [hl])]
    simp
  · have hl : codeMark? l = none := codeMark?_eq_none.2 hplain
    rw [escapeLine, hmark, hl, clearLine, if_pos hl]
    cases inCode <;> simp

/-- One line among others, after both passes. -/
theorem getElem?_repairLines {as bs : List Text} (h : ∀ l ∈ as, StaysOpen l) :
    (repairLines false false (as ++ l :: bs))[as.length]? =
      some (escapeLine (openAfterAll false as) (clearLine (openAfterAll false as) l)) := by
  rw [repairLines_append, repairLines_cons, openAfterAll_clearLines false h,
    List.getElem?_append_right (by rw [length_repairLines]), length_repairLines, Nat.sub_self]
  rfl

/-- **The repairs are one scan.** Each pass gives every line the flag that it has before it, and
    no line is lost or added. Both passes have the same flags, before each line and at the end,
    exactly if no line that opens a block comes to have the closing word when its markers are
    dropped; and then what comes of a line is told by one flag, which is up exactly if the last
    mark before the line opens a block. -/
theorem repair_one_scan (t : Text) :
    let ls := Text.lines t
    let cleared := Text.lines (clearListMarks t)
    let repaired := Text.lines (repair t)
    cleared = List.zipWith clearLine (scanFlags false ls) ls ∧
      repaired = List.zipWith escapeLine (scanFlags false cleared) cleared ∧
      repaired.length = ls.length ∧
      (scanFlags false cleared = scanFlags false ls ↔ ∀ l ∈ ls, StaysOpen l) ∧
      ((∀ l ∈ ls, StaysOpen l) → ∀ as l bs, ls = as ++ l :: bs →
        ∃ inCode l', repaired[as.length]? = some l' ∧ RepairedWith inCode l l' ∧
          (inCode = true ↔ (as.filterMap codeMark?).getLast? = some .opens)) := by
  intro ls cleared repaired
  have hcleared : cleared = clearLines false ls := lines_clearListMarks t
  have hrepaired : repaired = repairLines false false ls := lines_repair t
  refine ⟨?_, ?_, ?_, ?_, ?_⟩
  · rw [hcleared]
    exact clearLines_eq_zipWith false ls
  · rw [hrepaired, hcleared]
    exact escapeLines_eq_zipWith false (clearLines false ls)
  · rw [hrepaired]
    exact length_repairLines false false ls
  · rw [hcleared]
    exact scanFlags_clearLines_iff false ls
  · intro hstays as l bs hls
    rw [hls, List.forall_mem_append, List.forall_mem_cons] at hstays
    obtain ⟨has, hl, -⟩ := hstays
    refine ⟨openAfterAll false as, _, ?_, repairedWith_escapeLine hl _, openAfterAll_iff as⟩
    rw [hrepaired, hls]
    exact getElem?_repairLines has

/-- A code block that got into a numbered list stays open without its markers, and the line in it
    that holds underscores is not escaped. -/
theorem repair_one_scan_numbered :
    let t : Text := "a__b\n# \x7bcode:sql\x7d\n# # x__y\n# \x7bcode\x7d\n# c__d"
    (∀ l ∈ Text.lines t, StaysOpen l) ∧
      ∃ inCode l', (Text.lines (repair t))[2]? = some l' ∧
        RepairedWith inCode "# # x__y" l' ∧
        (inCode = true ↔
          (["a__b".toList, "# \x7bcode:sql\x7d".toList].filterMap codeMark?).getLast? =
            some .opens) := by
  intro t
  have hstays : ∀ l ∈ Text.lines t, StaysOpen l := by decide
  have hlines : Text.lines t =
      ["a__b".toList, "# \x7bcode:sql\x7d".toList] ++ "# # x__y".toList ::
        ["# \x7bcode\x7d".toList, "# c__d".toList] := by decide
  exact ⟨hstays, (repair_one_scan t).2.2.2.2 hstays _ _ _ hlines⟩

/-- A marker within the closing word hides it from the first pass. -/
example : ¬ StaysOpen "\x7bcode# \x7d" := by decide

end JiraMarkup.Wiki
