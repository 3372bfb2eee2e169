/-
  Ordered lists with code blocks among their items, after the repairs.

  * `NumberedItem` is an item: a line of text, or a code block. `NumberedItem.lines` are its filled
    lines, which the list puts behind number signs, and `NumberedItem.repaired` what the repairs
    make of these;
  * `listLines_numbered`: the lines of the list are those of its items;
  * `repairLines_item`: the repairs go through an item and meet the next one with no code block
    open; `repairLines_items` is the same for all items;
  * `repair_numbered` says what becomes of the whole list.
-/
import JiraMarkup.Proofs.Wiki.BulletLines
import JiraMarkup.Proofs.Wiki.ChangedLines
import JiraMarkup.Proofs.Wiki.CodeBlockRepair

namespace JiraMarkup.Wiki

open Text (filled)

/-! ## Items -/

/-- One line of text, trimmed, that opens no code block. -/
structure ItemText where
  /-- The line. -/
  text : Text
  ne_nil : text ≠ []
  newline_notMem : '\n' ∉ text
  trimmed : Text.trimWhite text = text
  not_opening : ¬ openingWord <:+: text

/-- A code block with a tag, whose code opens no other. -/
structure ItemCode where
  /-- The code. -/
  code : Text
  /-- The tag. -/
  lang : Option Text
  not_opening : ¬ openingWord <:+: code

/-- An item of an ordered list. -/
inductive NumberedItem where
  | text (t : ItemText)
  | code (c : ItemCode)

/-- A line behind the marker of an ordered list. -/
def numbered (l : Text) : Text := '#' :: ' ' :: l

namespace NumberedItem

variable (settings : Settings)

/-- What an item is rendered as. -/
def output : NumberedItem → Text
  | .text t => (jira settings).text t.text
  | .code c => (jira settings).codeBlock c.code c.lang

/-- The filled lines of an item. -/
def lines : NumberedItem → List Text
  | .text t => [t.text]
  | .code c => codeHeader settings c.code c.lang :: (filled (Text.lines c.code) ++ [closingWord])

/-- The lines of an item after the repairs: text is behind its number sign, and pairs of
    underscores in it are escaped. A code block has lost the number signs, of which a space is
    left in front of each line of code. -/
def repaired : NumberedItem → List Text
  | .text t => [numbered (escapePairs t.text)]
  | .code c => codeHeader settings c.code c.lang ::
      ((filled (Text.lines c.code)).map (' ' :: ·) ++ [closingWord])

theorem lines_ne_nil (i : NumberedItem) : i.lines settings ≠ [] := by
  cases i <;> exact List.cons_ne_nil _ _

theorem repaired_ne_nil (i : NumberedItem) : i.repaired settings ≠ [] := by
  cases i <;> exact List.cons_ne_nil _ _

end NumberedItem

/-! ## Code blocks as items -/

section
variable {settings : Settings} {code : Text} {lang : Option Text}

/-- There is no white space in front of a code block, -/
theorem dropWhile_codeBlock : (codeBlock settings code lang).dropWhile isWhite =
    codeBlock settings code lang := by
  have hword : "\x7bcode:language".toList = '\x7b' :: "code:language".toList := by decide
  rw [codeBlock_eq, codeHeader_eq, hword]
  exact List.dropWhile_cons_of_neg (by decide)

/-- and behind it there are empty lines only. -/
theorem trimEndWith_codeBlock : Text.trimEndWith isWhite (codeBlock settings code lang) =
    codeHeader settings code lang ++ '\n' :: (code ++ '\n' :: closingWord) := by
  have hend : Text.trimEndWith isWhite (closingWord ++ ['\n', '\n']) = closingWord := by decide
  have hcut : codeBlock settings code lang =
      (codeHeader settings code lang ++ '\n' :: (code ++ ['\n'])) ++
        (closingWord ++ ['\n', '\n']) := by
    rw [codeBlock_eq]
    simp
  rw [hcut, Text.trimEndWith_append, hend, if_neg (by decide)]
  simp

theorem filled_lines_code (h : '\n' ∉ codeHeader settings code lang) (t : Text) :
    filled (Text.lines (codeHeader settings code lang ++ '\n' :: (code ++ '\n' :: t))) =
      codeHeader settings code lang :: (filled (Text.lines code) ++ filled (Text.lines t)) := by
  have hne : codeHeader settings code lang ≠ [] := fun hnil =>
    absurd (openingWord_infix_codeHeader settings code lang) (by rw [hnil]; decide)
  rw [Text.lines_append_newline, Text.lines_append_newline, Text.lines_of_notMem h,
    Text.filled_append, Text.filled_append, Text.filled_cons hne]
  rfl

end

/-! ## The lines of the list -/

section
variable {settings : Settings}

theorem filled_lines_output (htheme : HeaderText settings.theme)
    (hborder : HeaderText settings.borderStyle) (i : NumberedItem) :
    filled (Text.lines (i.output settings)) = i.lines settings := by
  cases i with
  | text t =>
    have hlines : Text.lines t.text = [t.text] := Text.lines_of_notMem t.newline_notMem
    exact (congrArg filled hlines).trans (Text.filled_cons t.ne_nil [])
  | code c =>
    have hheader := headerText_codeHeader htheme hborder c.code c.lang
    have hblock := filled_lines_code hheader.newline_notMem (closingWord ++ ['\n', '\n'])
    rw [← codeBlock_eq] at hblock
    exact hblock

theorem dropWhile_output (i : NumberedItem) :
    (i.output settings).dropWhile isWhite = i.output settings := by
  cases i with
  | text t => exact (Text.trimmed_iff.1 t.trimmed).1
  | code c => exact dropWhile_codeBlock

theorem filled_lines_trimEndWith_output (htheme : HeaderText settings.theme)
    (hborder : HeaderText settings.borderStyle) (i : NumberedItem) :
    filled (Text.lines (Text.trimEndWith isWhite (i.output settings))) =
      filled (Text.lines (i.output settings)) := by
  cases i with
  | text t => exact congrArg (fun t => filled (Text.lines t)) (Text.trimmed_iff.1 t.trimmed).2
  | code c =>
    have hheader := headerText_codeHeader htheme hborder c.code c.lang
    have htrim : Text.trimEndWith isWhite (NumberedItem.output settings (.code c)) = _ :=
      trimEndWith_codeBlock
    rw [htrim, filled_lines_output htheme hborder, filled_lines_code hheader.newline_notMem]
    rfl

/-- **The lines of the list are those of its items**, each behind a number sign. -/
theorem listLines_numbered (htheme : HeaderText settings.theme)
    (hborder : HeaderText settings.borderStyle) (items : List NumberedItem) :
    listLines (items.flatMap fun i => (jira settings).listItem (i.output settings)) true =
      (items.flatMap (·.lines settings)).map numbered := by
  have hbody : (items.flatMap fun i => (jira settings).listItem (i.output settings)) =
      (items.map (·.output settings)).flatMap (· ++ ['\n']) := by
    rw [List.flatMap_map]
    rfl
  have hfront : ∀ t ∈ items.map (·.output settings), t.dropWhile isWhite = t :=
    List.forall_mem_map.2 fun i _ => dropWhile_output i
  have hback : ∀ t ∈ items.map (·.output settings),
      filled (Text.lines (Text.trimEndWith isWhite t)) = filled (Text.lines t) :=
    List.forall_mem_map.2 fun i _ => filled_lines_trimEndWith_output htheme hborder i
  rw [hbody, listLines_eq, filled_lines_body, itemLines, ← List.flatMap_def,
    Text.filled_lines_trimParts hfront hback, List.flatMap_map]
  simp only [filled_lines_output htheme hborder]
  rfl

end

/-! ## Repairs -/

/-- The marker of the list makes no words, and breaks none. -/
theorem infix_numbered {w : Text} {a : Char} (ha : a ∉ ['#', ' ']) (l : Text) :
    a :: w <:+: numbered l ↔ a :: w <:+: l := infix_append_of_notMem (p := ['#', ' ']) ha

theorem codeMark?_numbered (l : Text) : codeMark? (numbered l) = codeMark? l :=
  codeMark?_congr (infix_numbered (by decide) l) (infix_numbered (by decide) l)

/-- Text stays behind its marker. -/
theorem repairLines_numbered {l : Text} (h : ¬ openingWord <:+: l) (rest : List Text) :
    repairLines false false (numbered l :: rest) =
      numbered (escapePairs l) :: repairLines false false rest := by
  have hnone : codeMark? (numbered l) = none := by
    rw [codeMark?_numbered, codeMark?_eq_none]
    exact h
  have hclear : clearLine false (numbered l) = numbered l := by
    rw [clearLine, if_pos hnone]
    rfl
  have hescape : escapeLine false (numbered l) = numbered (escapePairs l) := by
    rw [escapeLine, if_neg (by simp [hnone])]
    exact escapePairs_append_cons (by decide) ['#'] l
  rw [repairLines_cons, hclear, hescape, openAfter_of_none hnone]

/-- A code block loses the markers in front of its lines. The first pass takes the spaces behind
    them from the lines that open and close it only. -/
theorem repairLines_numbered_block {header : Text} (hheader : HeaderText header)
    (hopens : openingWord <:+: header) {ls : List Text} (hcode : ∀ l ∈ ls, ¬ openingWord <:+: l)
    (inClear inEscape : Bool) (rest : List Text) :
    repairLines inClear inEscape
        (numbered header :: (ls.map numbered ++ numbered closingWord :: rest)) =
      header :: (ls.map (' ' :: ·) ++ closingWord :: repairLines false false rest) := by
  have hdrop : dropMarks (numbered header) = header := dropMarks_eq_self hheader.not_marked
  have hdrop' : dropMarks (numbered closingWord) = closingWord := by decide
  have hmark : codeMark? header = some .opens := codeMark?_eq_opens.2 ⟨hopens, hheader.not_closing⟩
  have hmark' : codeMark? (dropMarks (numbered header)) = some .opens := by
    rw [hdrop]
    exact hmark
  have hcode' : ∀ l ∈ ls.map numbered, ¬ openingWord <:+: l :=
    List.forall_mem_map.2 fun l hl hm => hcode l hl ((infix_numbered (by decide) l).1 hm)
  have hhash : (ls.map numbered).map dropHash = ls.map (' ' :: ·) := by
    rw [List.map_map]
    rfl
  rw [← codeMark?_numbered] at hmark
  rw [repairLines_block hmark hmark' hcode' (by decide) (by decide), hdrop, hdrop', hhash]

section
variable {settings : Settings}

/-- **The repairs go through an item** and have no code block open after it. -/
theorem repairLines_item (htheme : HeaderText settings.theme)
    (hborder : HeaderText settings.borderStyle) (i : NumberedItem) (rest : List Text) :
    repairLines false false ((i.lines settings).map numbered ++ rest) =
      i.repaired settings ++ repairLines false false rest := by
  cases i with
  | text t => exact repairLines_numbered t.not_opening rest
  | code c =>
    have hcode : ∀ l ∈ filled (Text.lines c.code), ¬ openingWord <:+: l := fun l hl hm =>
      c.not_opening (hm.trans (Text.infix_of_mem_lines (Text.mem_filled.1 hl).1))
    have hblock := repairLines_numbered_block
      (headerText_codeHeader htheme hborder c.code c.lang) (openingWord_infix_codeHeader ..) hcode
      false false rest
    simpa [NumberedItem.lines, NumberedItem.repaired] using hblock

/-- **The repairs go through all items**, one after the other. -/
theorem repairLines_items (htheme : HeaderText settings.theme)
    (hborder : HeaderText settings.borderStyle) (items : List NumberedItem) (rest : List Text) :
    repairLines false false ((items.flatMap (·.lines settings)).map numbered ++ rest) =
      items.flatMap (·.repaired settings) ++ repairLines false false rest := by
  induction items with
  | nil => rfl
  | cons i items ih =>
    rw [List.flatMap_cons, List.map_append, List.append_assoc, repairLines_item htheme hborder, ih,
      List.flatMap_cons, List.append_assoc]

/-- **Ordered lists with code blocks come through the repairs.** Whatever texts and code blocks are
    in a list, in whatever order, the repaired list is an empty line, the repaired lines of its
    items and another empty line. -/
theorem repair_numbered (htheme : HeaderText settings.theme)
    (hborder : HeaderText settings.borderStyle) (items : List NumberedItem) :
    repair ((jira settings).list
        (items.flatMap fun i => (jira settings).listItem (i.output settings)) true) =
      '\n' :: (Text.unlines (items.flatMap (·.repaired settings)) ++ ['\n', '\n']) := by
  rcases items with _ | ⟨i, items⟩
  · have hempty : repair (list [] true) = ['\n', '\n', '\n'] := by decide
    exact hempty
  have hlines : ((i :: items).flatMap (·.lines settings)).map numbered ≠ [] := by
    simp [i.lines_ne_nil]
  have hrepaired : (i :: items).flatMap (·.repaired settings) ≠ [] := by
    simp [i.repaired_ne_nil]
  rw [← listLines_numbered htheme hborder] at hlines
  have hlast : repairLines false false [[], []] = [[], []] := rfl
  have hlist : (jira settings).list = list := rfl
  rw [hlist, repair_eq, lines_list hlines, listLines_numbered htheme hborder,
    repairLines_nil_cons, repairLines_items htheme hborder, hlast, Text.unlines_cons (by simp),
    Text.unlines_append hrepaired (by simp)]
  rfl

end

/-- A shell script with a comment and an empty line in it, between two texts. -/
theorem repair_numbered_script :
    HeaderText Settings.default.theme ∧ HeaderText Settings.default.borderStyle ∧
      repair ((jira .default).list ("a__b\n" ++
        (codeBlock .default "# x__y\n\n  z" (some "bash") ++ "\nc\n")) true) =
      "\n# a\\_\\_b\n".toList ++ codeHeader .default "# x__y\n\n  z" (some "bash") ++
        "\n # x__y\n   z\n\x7bcode\x7d\n# c\n\n".toList := by
  have htheme : HeaderText Settings.default.theme := by decide
  have hborder : HeaderText Settings.default.borderStyle := by decide
  have h := repair_numbered htheme hborder
    [.text ⟨"a__b", by decide, by decide, by decide, by decide⟩,
      .code ⟨"# x__y\n\n  z", some "bash", by decide⟩,
      .text ⟨"c", by decide, by decide, by decide, by decide⟩]
  exact ⟨htheme, hborder, h⟩

end JiraMarkup.Wiki
