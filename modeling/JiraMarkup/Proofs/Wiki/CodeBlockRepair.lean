/-
  A code block that has been written comes through the repairs, whatever stands around it.

  * `repairLines_block`: whatever flags the two passes have before the lines of a code block,
    they treat these lines alike and have both flags down after them;
  * `repair_around_codeBlock`: so the text before a code block and the text after it are
    repaired as if they were alone.
-/
import JiraMarkup.Proofs.Wiki.CodeHeader

namespace JiraMarkup.Wiki

/-! ## The lines of a code block -/

/-- Code without a number sign at the front of each of its lines. -/
def clearedCode (code : Text) : Text := Text.unlines ((Text.lines code).map dropHash)

theorem lines_clearedCode (code : Text) :
    Text.lines (clearedCode code) = (Text.lines code).map dropHash := by
  refine Text.lines_unlines (by simpa using Text.lines_ne_nil code) fun l hl => ?_
  obtain ⟨l', hl', rfl⟩ := List.mem_map.1 hl
  exact fun hm => Text.newline_notMem_of_mem_lines hl' ((dropHash_suffix l').mem hm)

/-- The lines of a code block and of the text after it. -/
theorem lines_codeBlock_append (settings : Settings) (code : Text) (lang : Option Text)
    (h : '\n' ∉ codeHeader settings code lang) (post : Text) :
    Text.lines (codeBlock settings code lang ++ post) = codeHeader settings code lang ::
      (Text.lines code ++ closingWord :: [] :: Text.lines post) := by
  simp only [codeBlock_eq, List.append_assoc, List.cons_append, List.nil_append]
  rw [Text.lines_append_newline, Text.lines_of_notMem h, List.singleton_append,
    Text.lines_append_newline, Text.lines_append_newline, Text.lines_newline]
  rfl

/-! ## Both passes over a code block -/

/-- Lines of code lose a number sign each, and both passes stay in the code. -/
theorem repairLines_code {ls : List Text} (h : ∀ l ∈ ls, ¬ openingWord <:+: l)
    (rest : List Text) :
    repairLines true true (ls ++ rest) = ls.map dropHash ++ repairLines true true rest := by
  induction ls with
  | nil => rfl
  | cons l ls ih =>
    rw [List.forall_mem_cons] at h
    have hl : codeMark? l = none := codeMark?_eq_none.2 h.1
    have hclear : clearLine true l = dropHash l := by rw [clearLine, if_pos hl, if_pos rfl]
    have hl' : codeMark? (dropHash l) = none :=
      codeMark?_eq_none.2 fun hm => h.1 (hm.trans (dropHash_suffix l).isInfix)
    rw [List.cons_append, repairLines_cons, hclear, openAfter_of_none hl, openAfter_of_none hl',
      ih h.2, escapeLine, if_pos (.inl rfl)]
    rfl

/-- **Both passes meet at a code block**: whatever flags they have before it, its first and last
    lines lose their markers and its code is cleared, and they have their flags down after it. -/
theorem repairLines_block {header closer : Text} (hopens : codeMark? header = some .opens)
    (hopens' : codeMark? (dropMarks header) = some .opens) {ls : List Text}
    (hcode : ∀ l ∈ ls, ¬ openingWord <:+: l) (hcloses : codeMark? closer = some .closes)
    (hcloses' : codeMark? (dropMarks closer) = some .closes) (inClear inEscape : Bool)
    (rest : List Text) :
    repairLines inClear inEscape (header :: (ls ++ closer :: rest)) =
      dropMarks header ::
        (ls.map dropHash ++ dropMarks closer :: repairLines false false rest) := by
  have hheader : clearLine inClear header = dropMarks header := if_neg (by simp [hopens])
  have hcloser : clearLine true closer = dropMarks closer := if_neg (by simp [hcloses])
  rw [repairLines_cons, hheader, openAfter_of_opens hopens, openAfter_of_opens hopens', escapeLine,
    if_pos (.inr hopens'), repairLines_code hcode, repairLines_cons, hcloser,
    openAfter_of_closes hcloses, openAfter_of_closes hcloses', escapeLine, if_pos (.inl rfl)]

/-- A code block that has no markers comes through with its code cleared. -/
theorem repairLines_codeBlock {header : Text} (hheader : HeaderText header)
    (hopens : openingWord <:+: header) {ls : List Text} (hcode : ∀ l ∈ ls, ¬ openingWord <:+: l)
    (inClear inEscape : Bool) (rest : List Text) :
    repairLines inClear inEscape (header :: (ls ++ closingWord :: [] :: rest)) =
      header :: (ls.map dropHash ++ closingWord :: [] :: repairLines false false rest) := by
  have hopen : codeMark? header = some .opens := codeMark?_eq_opens.2 ⟨hopens, hheader.not_closing⟩
  have hkeep : dropMarks header = header := dropMarks_eq_self hheader.not_marked
  rw [repairLines_block hopen (by rwa [hkeep]) hcode (by decide) (by decide), hkeep,
    repairLines_nil_cons]
  rfl

/-- **A code block comes through the repairs, whatever stands around it.** The text before it,
    if that ends with a line, and the text after it are repaired as if they were alone; the
    block keeps its header, and each line of its code loses one number sign at its front. -/
theorem repair_around_codeBlock {settings : Settings} (htheme : HeaderText settings.theme)
    (hborder : HeaderText settings.borderStyle) {pre : Text}
    (hpre : pre = [] ∨ ∃ q, pre = q ++ ['\n']) (post : Text) {code : Text}
    (hcode : ¬ openingWord <:+: code) (lang : Option Text) :
    repair (pre ++ codeBlock settings code lang ++ post) =
        repair pre ++ codeBlock settings (clearedCode code) lang ++ repair post ∧
      codeHeader settings (clearedCode code) lang = codeHeader settings code lang ∧
      Text.lines (clearedCode code) = (Text.lines code).map dropHash := by
  have hheader := headerText_codeHeader htheme hborder code lang
  have hsame : codeHeader settings (clearedCode code) lang = codeHeader settings code lang :=
    codeHeader_congr (by rw [lines_clearedCode, List.length_map])
  obtain ⟨inClear, inEscape, h⟩ := repair_append hpre (codeBlock settings code lang ++ post)
  refine ⟨?_, hsame, lines_clearedCode code⟩
  have hlines := lines_codeBlock_append settings (clearedCode code) lang
    (by rw [hsame]; exact hheader.newline_notMem) (repair post)
  rw [hsame, lines_clearedCode, lines_repair] at hlines
  rw [List.append_assoc, h, lines_codeBlock_append _ _ _ hheader.newline_notMem,
    repairLines_codeBlock hheader (openingWord_infix_codeHeader ..)
      (fun l hl hm => hcode (hm.trans (Text.infix_of_mem_lines hl))),
    ← hlines, Text.unlines_lines, List.append_assoc]

/-- A code block after a line that opens another and before a pair of underscores. -/
theorem repair_around_codeBlock_after_opened :
    HeaderText Settings.default.theme ∧ HeaderText Settings.default.borderStyle ∧
      ¬ openingWord <:+: "# a__b".toList ∧
      repair ("\x7bcode\n".toList ++ codeBlock .default "# a__b" (some "sql") ++ "c__d".toList) =
        "\x7bcode\n".toList ++ codeBlock .default " a__b" (some "sql") ++ "c\\_\\_d".toList := by
  have htheme : HeaderText Settings.default.theme := by decide
  have hborder : HeaderText Settings.default.borderStyle := by decide
  have hcode : ¬ openingWord <:+: "# a__b".toList := by decide
  have hopened : "\x7bcode\n".toList = "\x7bcode".toList ++ ['\n'] := by decide
  have h := (repair_around_codeBlock htheme hborder (.inr ⟨_, hopened⟩) "c__d" hcode
    (some "sql")).1
  have hpre : repair "\x7bcode\n" = "\x7bcode\n".toList := by decide
  have hcleared : clearedCode "# a__b" = " a__b".toList := by decide
  have hpost : repair "c__d" = "c\\_\\_d".toList := by decide
  rw [hpre, hcleared, hpost] at h
  exact ⟨htheme, hborder, hcode, h⟩

end JiraMarkup.Wiki
