/-
  The line that opens a code block.

  * `HeaderText` are the texts that it can hold without being taken for something else;
    `headerText_codeHeader` says that it is one itself if the settings in it are;
  * `infix_append_cons`: words do not reach across a character that is in none of them, and
    such characters are between the parts of the line.
-/
import JiraMarkup.Proofs.Wiki.RepairScan
import JiraMarkup.Wiki.Jira

namespace JiraMarkup.Wiki

theorem eq_nil_of_prefix_cons {w b : Text} {c : Char} (hw : c ∉ w) (h : w <+: c :: b) :
    w = [] := by
  rcases List.prefix_cons_iff.1 h with rfl | ⟨t, rfl, -⟩
  · rfl
  · simp at hw

/-- A word without the character `c` is before it or after it. -/
theorem infix_append_cons {w a b : Text} {c : Char} (hw : c ∉ w) :
    w <:+: a ++ c :: b ↔ w <:+: a ∨ w <:+: b := by
  rw [List.infix_append_iff, List.infix_cons_iff]
  constructor
  · rintro (h | (h | h) | ⟨u, v, rfl, hu, hv⟩)
    · exact .inl h
    · rw [eq_nil_of_prefix_cons hw h]
      exact .inl List.nil_infix
    · exact .inr h
    · rw [List.mem_append, not_or] at hw
      rw [eq_nil_of_prefix_cons hw.2 hv, List.append_nil]
      exact .inl hu.isInfix
  · rintro (h | h)
    · exact .inl h
    · exact .inr (.inl (.inr h))

/-- A text on one line that neither closes a code block nor has a marker in it. -/
structure HeaderText (t : Text) : Prop where
  newline_notMem : '\n' ∉ t
  not_closing : ¬ closingWord <:+: t
  not_marked : ¬ "# ".toList <:+: t

/-- Pieces between two characters that are in none of the words. -/
theorem HeaderText.append_cons {a b : Text} {c : Char} (ha : HeaderText a) (hb : HeaderText b)
    (hc : c ∉ '\n' :: closingWord ++ "# ".toList) : HeaderText (a ++ c :: b) := by
  simp only [List.cons_append, List.mem_cons, List.mem_append, not_or] at hc
  obtain ⟨hnl, hclosing, hmark⟩ := hc
  refine ⟨?_, ?_, ?_⟩
  · simp [ha.newline_notMem, hb.newline_notMem, Ne.symm hnl]
  · rw [infix_append_cons hclosing]
    exact fun h => h.elim ha.not_closing hb.not_closing
  · rw [infix_append_cons (by simpa using hmark)]
    exact fun h => h.elim ha.not_marked hb.not_marked

instance (t : Text) : Decidable (HeaderText t) :=
  decidable_of_iff ('\n' ∉ t ∧ ¬ closingWord <:+: t ∧ ¬ "# ".toList <:+: t)
    ⟨fun h => ⟨h.1, h.2.1, h.2.2⟩, fun h => ⟨h.1, h.2, h.3⟩⟩

/-- The language of a tag is one of the table, or empty. -/
theorem ofTag_of_table {p : Text → Prop} (hnil : p []) (htable : ∀ e ∈ Language.table, p e.2)
    (lang : Option Text) : p (Language.ofTag lang) := by
  rcases lang with _ | tag
  · exact hnil
  · rw [Language.ofTag, Option.bind_some]
    rcases h : Language.table.lookup tag with _ | language
    · exact hnil
    · obtain ⟨as, bs, hmem, -⟩ := List.lookup_eq_some_iff.1 h
      exact htable (tag, language) (by rw [hmem]; simp)

theorem headerText_ofTag (lang : Option Text) : HeaderText (Language.ofTag lang) :=
  ofTag_of_table (by decide) (by decide) lang

/-- The line that opens a code block, cut where no word that matters can stand. -/
theorem codeHeader_eq (settings : Settings) (code : Text) (lang : Option Text) :
    codeHeader settings code lang =
      "\x7bcode:language".toList ++ '=' :: (Language.ofTag lang ++ '|' ::
        ("borderStyle".toList ++ '=' :: (settings.borderStyle ++ '|' ::
          ("theme".toList ++ '=' :: (settings.theme ++ '|' ::
            ("linenumbers".toList ++ '=' :: (flag settings.lineNumbers ++ '|' ::
              ("collapse".toList ++ '=' ::
                (flag (settings.collapseThreshold < (Text.lines code).length) ++
                  ['\x7d']))))))))) := by
  have hlanguage : "\x7bcode:language=".toList = "\x7bcode:language".toList ++ ['='] := by decide
  have hborder : "|borderStyle=".toList = '|' :: ("borderStyle".toList ++ ['=']) := by decide
  have htheme : "|theme=".toList = '|' :: ("theme".toList ++ ['=']) := by decide
  have hnumbers : "|linenumbers=".toList = '|' :: ("linenumbers".toList ++ ['=']) := by decide
  have hcollapse : "|collapse=".toList = '|' :: ("collapse".toList ++ ['=']) := by decide
  have hend : "\x7d".toList = ['\x7d'] := by decide
  unfold codeHeader
  simp only [hlanguage, hborder, htheme, hnumbers, hcollapse, hend, List.append_assoc,
    List.cons_append, List.nil_append]

/-- The line that opens a code block depends on how many lines the code has. -/
theorem codeHeader_congr {settings : Settings} {code code' : Text} {lang : Option Text}
    (h : (Text.lines code).length = (Text.lines code').length) :
    codeHeader settings code lang = codeHeader settings code' lang := by
  unfold codeHeader
  rw [h]

/-- The line that opens a code block is one line, does not close it and has no marker in it. -/
theorem headerText_codeHeader {settings : Settings} (htheme : HeaderText settings.theme)
    (hborder : HeaderText settings.borderStyle) (code : Text) (lang : Option Text) :
    HeaderText (codeHeader settings code lang) := by
  have hflag : ∀ b, HeaderText (flag b) := by decide
  have hlast : ∀ b, HeaderText (flag b ++ ['\x7d']) := by decide
  rw [codeHeader_eq]
  refine .append_cons (by decide) ?_ (by decide)
  refine .append_cons (headerText_ofTag lang) ?_ (by decide)
  refine .append_cons (by decide) ?_ (by decide)
  refine .append_cons hborder ?_ (by decide)
  refine .append_cons (by decide) ?_ (by decide)
  refine .append_cons htheme ?_ (by decide)
  refine .append_cons (by decide) ?_ (by decide)
  refine .append_cons (hflag _) ?_ (by decide)
  exact .append_cons (by decide) (hlast _) (by decide)

theorem newline_notMem_codeHeader {settings : Settings} (htheme : '\n' ∉ settings.theme)
    (hborder : '\n' ∉ settings.borderStyle) (code : Text) (lang : Option Text) :
    '\n' ∉ codeHeader settings code lang := by
  have hflag : ∀ b, '\n' ∉ flag b := by decide
  rw [codeHeader_eq]
  simp only [List.mem_append, List.mem_cons, List.not_mem_nil, not_or]
  simp only [htheme, hborder, hflag, (headerText_ofTag lang).newline_notMem, not_false_eq_true,
    true_and, and_true]
  decide

/-- The lines of a code block. -/
theorem codeBlock_eq (settings : Settings) (code : Text) (lang : Option Text) :
    codeBlock settings code lang =
      codeHeader settings code lang ++ '\n' :: (code ++ '\n' :: (closingWord ++ ['\n', '\n'])) := by
  have hend : "\n\x7bcode\x7d\n\n".toList = '\n' :: (closingWord ++ ['\n', '\n']) := by decide
  have hstart : "\n".toList = ['\n'] := by decide
  unfold codeBlock
  simp only [hend, hstart, List.append_assoc, List.cons_append, List.nil_append]

theorem openingWord_infix_codeHeader (settings : Settings) (code : Text) (lang : Option Text) :
    openingWord <:+: codeHeader settings code lang := by
  rw [codeHeader_eq]
  exact List.infix_append_of_infix_left (by decide : openingWord <:+: "\x7bcode:language".toList)

end JiraMarkup.Wiki
