/-
  The two repairs as scans over lines.

  * both keep one flag, whether a code block is open: `openAfter` is the flag after a line;
  * `clearLine` and `escapeLine` are what the two passes make of a line, `clearLines_append`
    and `escapeLines_append` say that a scan goes on with the flag it has;
  * `repairLines` is the second pass on the lines of the first; `repair_eq` says that this
    is `repair`, and `repair_append` that a text is repaired from one whole line to the next.
-/
import JiraMarkup.Proofs.Text.Lines
import JiraMarkup.Wiki.Repair

namespace JiraMarkup.Wiki

/-! ## Words that open and close -/

/-- The word that opens a code block. -/
def openingWord : Text := "\x7bcode"

/-- The word that closes a code block. -/
def closingWord : Text := "\x7bcode\x7d"

theorem codeMark?_eq_closes {l : Text} : codeMark? l = some .closes ↔ closingWord <:+: l := by
  rw [← Text.mentions_iff]
  change (if Text.mentions closingWord l then _ else _) = _ ↔ _
  split
  · simp_all
  · split <;> simp_all

theorem codeMark?_eq_none {l : Text} : codeMark? l = none ↔ ¬ openingWord <:+: l := by
  have hsub : closingWord <:+: l → openingWord <:+: l :=
    List.IsInfix.trans ⟨[], ['\x7d'], rfl⟩
  rw [← Text.mentions_iff, ← Text.mentions_iff] at hsub
  rw [← Text.mentions_iff]
  change (if Text.mentions closingWord l then _ else
    if Text.mentions openingWord l then _ else _) = _ ↔ _
  split
  · simp_all
  · split <;> simp_all

theorem codeMark?_eq_opens {l : Text} :
    codeMark? l = some .opens ↔ openingWord <:+: l ∧ ¬ closingWord <:+: l := by
  rw [← codeMark?_eq_closes, ← not_not (a := openingWord <:+: l), ← codeMark?_eq_none]
  rcases codeMark? l with _ | _ | _ <;> simp

/-- Two lines that hold the same of these words do the same. -/
theorem codeMark?_congr {l l' : Text} (hopens : openingWord <:+: l ↔ openingWord <:+: l')
    (hcloses : closingWord <:+: l ↔ closingWord <:+: l') : codeMark? l = codeMark? l' := by
  rcases h : codeMark? l' with _ | _ | _
  · rwa [codeMark?_eq_none, hopens, ← codeMark?_eq_none]
  · rwa [codeMark?_eq_opens, hopens, hcloses, ← codeMark?_eq_opens]
  · rwa [codeMark?_eq_closes, hcloses, ← codeMark?_eq_closes]

/-! ## What the passes make of a line -/

theorem dropMarks_sublist (t : Text) : List.Sublist (dropMarks t) t := by
  induction t using dropMarks.induct with
  | case1 t ih => rw [dropMarks]; exact (ih.cons _).cons _
  | case2 c t h ih => rw [dropMarks]; exacts [ih.cons_cons _, h]
  | case3 => rw [dropMarks]

/-- A line without a number sign that a space follows has no marks to drop. -/
theorem dropMarks_eq_self {t : Text} (h : ¬ "# ".toList <:+: t) : dropMarks t = t := by
  induction t using dropMarks.induct with
  | case1 t _ => exact absurd (List.IsPrefix.isInfix ⟨t, rfl⟩) h
  | case2 c t hne ih =>
    rw [dropMarks, ih fun ht => h (List.infix_cons ht)]
    exact hne
  | case3 => rw [dropMarks]

theorem dropHash_suffix (t : Text) : dropHash t <:+ t := by
  rw [dropHash.eq_def]
  split
  · exact List.suffix_cons ..
  · exact List.suffix_refl _

/-- A pair of underscores is on one side of any other character. -/
theorem escapePairs_append_cons {c : Char} (hc : c ≠ '_') (p r : Text) :
    escapePairs (p ++ c :: r) = escapePairs p ++ c :: escapePairs r := by
  induction p using escapePairs.induct with
  | case1 p ih =>
    rw [List.cons_append, List.cons_append, escapePairs, escapePairs, ih]
    rfl
  | case2 a p hne ih =>
    rw [List.cons_append, escapePairs.eq_2, escapePairs.eq_2 a p hne, ih, List.cons_append]
    intro t ha ht
    cases p with
    | nil => exact hc (List.cons.inj ht).1
    | cons b p =>
      obtain ⟨rfl, -⟩ := List.cons.inj ht
      exact hne p ha rfl
  | case3 =>
    rw [List.nil_append, escapePairs.eq_2, escapePairs]
    · rfl
    · exact fun _ hc' => absurd hc' hc

/-- Whether a code block is open after a line; `inCode` if one was open before it. -/
def openAfter (inCode : Bool) (l : Text) : Bool :=
  match codeMark? l with
  | some mark => mark == .opens
  | none => inCode

theorem openAfter_of_opens {l : Text} (h : codeMark? l = some .opens) (inCode : Bool) :
    openAfter inCode l = true := by rw [openAfter, h]; rfl

theorem openAfter_of_closes {l : Text} (h : codeMark? l = some .closes) (inCode : Bool) :
    openAfter inCode l = false := by rw [openAfter, h]; rfl

theorem openAfter_of_none {l : Text} (h : codeMark? l = none) (inCode : Bool) :
    openAfter inCode l = inCode := by rw [openAfter, h]

theorem openAfter_of_mark {l : Text} (h : codeMark? l ≠ none) (inCode : Bool) :
    openAfter inCode l = (codeMark? l == some .opens) := by
  rcases hl : codeMark? l with _ | _ | _
  · exact absurd hl h
  · exact openAfter_of_opens hl inCode
  · exact openAfter_of_closes hl inCode

/-- What the first pass makes of a line. -/
def clearLine (inCode : Bool) (l : Text) : Text :=
  if codeMark? l = none then if inCode then dropHash l else l else dropMarks l

/-- What the second pass makes of a line. -/
def escapeLine (inCode : Bool) (l : Text) : Text :=
  if inCode ∨ codeMark? l = some .opens then l else escapePairs l

theorem clearLines_cons (inCode : Bool) (l : Text) (ls : List Text) :
    clearLines inCode (l :: ls) = clearLine inCode l :: clearLines (openAfter inCode l) ls := by
  rw [clearLines, clearLine, openAfter]
  cases codeMark? l <;> rfl

theorem escapeLines_cons (inCode : Bool) (l : Text) (ls : List Text) :
    escapeLines inCode (l :: ls) = escapeLine inCode l :: escapeLines (openAfter inCode l) ls := by
  have hclose : (CodeMark.closes == .opens) = false := rfl
  rcases h : codeMark? l with _ | _ | _ <;> cases inCode <;>
    simp [escapeLines, escapeLine, openAfter, h, hclose]

/-! ## Scans -/

/-- Whether a code block is open after the lines. -/
def openAfterAll (inCode : Bool) (ls : List Text) : Bool := ls.foldl openAfter inCode

theorem clearLines_append (inCode : Bool) (as bs : List Text) :
    clearLines inCode (as ++ bs) =
      clearLines inCode as ++ clearLines (openAfterAll inCode as) bs := by
  induction as generalizing inCode with
  | nil => rfl
  | cons a as ih =>
    rw [List.cons_append, clearLines_cons, clearLines_cons, ih, List.cons_append]
    rfl

theorem escapeLines_append (inCode : Bool) (as bs : List Text) :
    escapeLines inCode (as ++ bs) =
      escapeLines inCode as ++ escapeLines (openAfterAll inCode as) bs := by
  induction as generalizing inCode with
  | nil => rfl
  | cons a as ih =>
    rw [List.cons_append, escapeLines_cons, escapeLines_cons, ih, List.cons_append]
    rfl

/-- The lines after both passes, if these have the flags `inClear` and `inEscape` before
    them. -/
def repairLines (inClear inEscape : Bool) (ls : List Text) : List Text :=
  escapeLines inEscape (clearLines inClear ls)

theorem repairLines_cons (inClear inEscape : Bool) (l : Text) (ls : List Text) :
    repairLines inClear inEscape (l :: ls) =
      escapeLine inEscape (clearLine inClear l) ::
        repairLines (openAfter inClear l) (openAfter inEscape (clearLine inClear l)) ls := by
  rw [repairLines, clearLines_cons, escapeLines_cons, repairLines]

/-- The passes go on with the flags that they have. -/
theorem repairLines_append (inClear inEscape : Bool) (as bs : List Text) :
    repairLines inClear inEscape (as ++ bs) =
      repairLines inClear inEscape as ++
        repairLines (openAfterAll inClear as)
          (openAfterAll inEscape (clearLines inClear as)) bs := by
  rw [repairLines, clearLines_append, escapeLines_append, repairLines, repairLines]

theorem length_clearLines (inCode : Bool) (ls : List Text) :
    (clearLines inCode ls).length = ls.length := by
  induction ls generalizing inCode with
  | nil => rfl
  | cons l ls ih => rw [clearLines_cons, List.length_cons, List.length_cons, ih]

theorem length_escapeLines (inCode : Bool) (ls : List Text) :
    (escapeLines inCode ls).length = ls.length := by
  induction ls generalizing inCode with
  | nil => rfl
  | cons l ls ih => rw [escapeLines_cons, List.length_cons, List.length_cons, ih]

theorem clearLine_sublist (inCode : Bool) (l : Text) : List.Sublist (clearLine inCode l) l := by
  rw [clearLine]
  split_ifs
  · exact (dropHash_suffix l).sublist
  · exact List.Sublist.refl l
  · exact dropMarks_sublist l

theorem newline_notMem_clearLines (inCode : Bool) {ls : List Text} (h : ∀ l ∈ ls, '\n' ∉ l) :
    ∀ l ∈ clearLines inCode ls, '\n' ∉ l := by
  induction ls generalizing inCode with
  | nil => simp [clearLines]
  | cons l ls ih =>
    rw [List.forall_mem_cons] at h
    rw [clearLines_cons, List.forall_mem_cons]
    exact ⟨fun hm => h.1 ((clearLine_sublist inCode l).mem hm), ih _ h.2⟩

theorem mem_of_mem_escapePairs {t : Text} {c : Char} (h : c ∈ escapePairs t) :
    c ∈ t ∨ c = '\\' := by
  induction t using escapePairs.induct with
  | case1 t ih =>
    simp only [escapePairs, List.mem_cons] at h ⊢
    tauto
  | case2 a t hne ih =>
    rw [escapePairs.eq_2 a t hne] at h
    simp only [List.mem_cons] at h ⊢
    tauto
  | case3 => exact .inl h

theorem newline_notMem_escapeLines (inCode : Bool) {ls : List Text} (h : ∀ l ∈ ls, '\n' ∉ l) :
    ∀ l ∈ escapeLines inCode ls, '\n' ∉ l := by
  induction ls generalizing inCode with
  | nil => simp [escapeLines]
  | cons l ls ih =>
    rw [List.forall_mem_cons] at h
    rw [escapeLines_cons, List.forall_mem_cons]
    refine ⟨?_, ih _ h.2⟩
    rw [escapeLine]
    split_ifs
    · exact h.1
    · exact fun hm => (mem_of_mem_escapePairs hm).elim h.1 (by decide)

theorem length_repairLines (inClear inEscape : Bool) (ls : List Text) :
    (repairLines inClear inEscape ls).length = ls.length := by
  rw [repairLines, length_escapeLines, length_clearLines]

theorem repairLines_lines_ne_nil (inClear inEscape : Bool) (t : Text) :
    repairLines inClear inEscape (Text.lines t) ≠ [] :=
  Text.ne_nil_of_length_eq_lines (length_repairLines ..)

/-- The second pass meets the lines of the first. -/
theorem lines_clearListMarks (t : Text) :
    Text.lines (clearListMarks t) = clearLines false (Text.lines t) := by
  have hne : clearLines false (Text.lines t) ≠ [] :=
    Text.ne_nil_of_length_eq_lines (length_clearLines ..)
  exact Text.lines_unlines hne <| newline_notMem_clearLines false fun l hl =>
    Text.newline_notMem_of_mem_lines hl

/-- **Repairing a text repairs its lines.** -/
theorem repair_eq (t : Text) :
    repair t = Text.unlines (repairLines false false (Text.lines t)) := by
  rw [repair, escapeOutsideCode, lines_clearListMarks, repairLines]

/-- A text has as many lines after the repairs as before. -/
theorem lines_repair (t : Text) :
    Text.lines (repair t) = repairLines false false (Text.lines t) := by
  have hnl := newline_notMem_escapeLines false <| newline_notMem_clearLines false
    fun l (hl : l ∈ Text.lines t) => Text.newline_notMem_of_mem_lines hl
  rw [repair_eq, Text.lines_unlines (repairLines_lines_ne_nil _ _ t) hnl]

/-- An empty line stays as it is. -/
theorem repairLines_nil_cons (ls : List Text) :
    repairLines false false ([] :: ls) = [] :: repairLines false false ls := repairLines_cons ..

@[simp] theorem repairLines_singleton_nil (inClear inEscape : Bool) :
    repairLines inClear inEscape [[]] = [[]] := by
  cases inClear <;> cases inEscape <;> rfl

/-- Text after whole lines is repaired with the flags that these lines leave behind. -/
theorem repair_append {pre : Text} (hpre : pre = [] ∨ ∃ q, pre = q ++ ['\n']) (t : Text) :
    ∃ inClear inEscape, repair (pre ++ t) =
      repair pre ++ Text.unlines (repairLines inClear inEscape (Text.lines t)) := by
  rcases hpre with rfl | ⟨q, rfl⟩
  · exact ⟨false, false, repair_eq t⟩
  · -- The whole lines have an empty one after them, in whose place `t` stands.
    have hne := repairLines_lines_ne_nil
    refine ⟨openAfterAll false (Text.lines q),
      openAfterAll false (clearLines false (Text.lines q)), ?_⟩
    rw [repair_eq, repair_eq, List.append_assoc, List.singleton_append,
      Text.lines_append_newline, Text.lines_append_singleton, repairLines_append,
      repairLines_append, repairLines_singleton_nil, Text.unlines_append (hne _ _ _) (hne _ _ _),
      Text.unlines_append (hne _ _ _) (by simp), List.append_assoc]
    rfl

end JiraMarkup.Wiki
