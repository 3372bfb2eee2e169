/-
  Pairs of lines that open the same code block under different settings.

  * `SameHeader`: two lines have the same text up to the word that begins a header, and no brace
    after it; `sameHeader_codeHeader` says so of the headers that are written;
  * what lists do to a line (`SameHeader.trimEnd`, `SameHeader.mergeBullets` and so on) and what
    the repairs do (`SameHeader.dropMarks`, `SameHeader.escapePairs`) leaves such a pair one;
  * `SameHeader.codeMark?_eq`: the repairs do not tell the two lines apart.
-/
import JiraMarkup.Proofs.Wiki.ChangedLines

namespace JiraMarkup.Wiki

/-! ## Joined bullets before a brace -/

/-- A word is not looked for beyond a character that is not in it. -/
theorem after?_append_cons {w p r : Text} {c : Char} (hc : c ∉ w) :
    Text.after? w (p ++ c :: r) = (Text.after? w p).map (· ++ c :: r) := by
  induction w generalizing p with
  | nil => rfl
  | cons a w ih =>
    rw [List.mem_cons, not_or] at hc
    cases p with
    | nil => simp [Text.after?, Ne.symm hc.1]
    | cons b p =>
      rw [List.cons_append, Text.after?, Text.after?]
      split
      · exact ih hc.2
      · rfl

/-- The bullets in front of a brace are joined as if the line ended there. -/
theorem mergeBullet?_append_brace (p r : Text) :
    mergeBullet? (p ++ '\x7b' :: r) = (mergeBullet? p).map (· ++ '\x7b' :: r) := by
  have hstars : (p ++ '\x7b' :: r).takeWhile (· == '*') = p.takeWhile (· == '*') := by
    rw [List.takeWhile_append]
    split
    · next hall => rw [List.takeWhile_cons_of_neg (by decide), List.append_nil,
        (List.takeWhile_prefix _).eq_of_length hall]
    · rfl
  have hdrop : (p ++ '\x7b' :: r).drop (p.takeWhile (· == '*')).length =
      p.drop (p.takeWhile (· == '*')).length ++ '\x7b' :: r :=
    List.drop_append_of_le_length (List.takeWhile_prefix _).length_le
  rw [mergeBullet?, mergeBullet?, hstars, hdrop, after?_append_cons (by decide)]
  split
  · rfl
  · cases Text.after? " * " (p.drop (p.takeWhile (· == '*')).length) <;> simp

theorem mergeRounds_append_brace (n : Nat) (p r : Text) :
    mergeRounds n (p ++ '\x7b' :: r) = mergeRounds n p ++ '\x7b' :: r := by
  induction n generalizing p with
  | zero => rfl
  | succ n ih =>
    rw [mergeRounds, mergeRounds, mergeBullet?_append_brace]
    cases mergeBullet? p with
    | none => rfl
    | some merged => exact ih merged

theorem mergeBullets_append_brace (p r : Text) :
    mergeBullets (p ++ '\x7b' :: r) = mergeBullets p ++ '\x7b' :: r := by
  rw [mergeBullets, mergeRounds_append_brace, mergeRounds_of_length_le (by simp)]

/-! ## Marks around other characters -/

theorem dropMarks_append_cons {c : Char} (hhash : c ≠ '#') (hspace : c ≠ ' ') (p r : Text) :
    dropMarks (p ++ c :: r) = dropMarks p ++ c :: dropMarks r := by
  induction p using dropMarks.induct with
  | case1 p ih =>
    rw [List.cons_append, List.cons_append, dropMarks, dropMarks, ih]
  | case2 a p hne ih =>
    rw [List.cons_append, dropMarks.eq_2, dropMarks.eq_2 a p hne, ih, List.cons_append]
    intro t ha ht
    cases p with
    | nil => exact hspace (List.cons.inj ht).1
    | cons b p =>
      obtain ⟨rfl, -⟩ := List.cons.inj ht
      exact hne p ha rfl
  | case3 =>
    rw [List.nil_append, dropMarks.eq_2, dropMarks]
    · rfl
    · exact fun _ hc => absurd hc hhash

/-! ## Header lines -/

/-- The word that the header of a code block begins with. -/
def headerWord : Text := "\x7bcode:language="

/-- Two lines that differ behind the word that begins a header only, where neither has a
    brace. -/
def SameHeader (l l' : Text) : Prop :=
  ∃ front rest rest' : Text, '\x7b' ∉ rest ∧ '\x7b' ∉ rest' ∧
    l = front ++ headerWord ++ rest ∧ l' = front ++ headerWord ++ rest'

theorem headerWord_eq : headerWord = '\x7b' :: ("code:language".toList ++ ['=']) := by decide

namespace SameHeader

variable {l l' : Text}

theorem infix_headerWord (h : SameHeader l l') : headerWord <:+: l ∧ headerWord <:+: l' := by
  obtain ⟨front, rest, rest', -, -, rfl, rfl⟩ := h
  exact ⟨List.infix_append .., List.infix_append ..⟩

theorem ne_nil (h : SameHeader l l') : l ≠ [] ∧ l' ≠ [] := by
  obtain ⟨hl, hl'⟩ := h.infix_headerWord
  have hword : ¬ headerWord <:+: [] := by decide
  exact ⟨fun hnil => hword (hnil ▸ hl), fun hnil => hword (hnil ▸ hl')⟩

theorem append_left (t : Text) (h : SameHeader l l') : SameHeader (t ++ l) (t ++ l') := by
  obtain ⟨front, rest, rest', hrest, hrest', rfl, rfl⟩ := h
  exact ⟨t ++ front, rest, rest', hrest, hrest', by simp, by simp⟩

/-! ### Lists -/

theorem dropWhile (h : SameHeader l l') :
    SameHeader (l.dropWhile isWhite) (l'.dropWhile isWhite) := by
  obtain ⟨front, rest, rest', hrest, hrest', rfl, rfl⟩ := h
  have hdrop : ∀ rest : Text, (front ++ headerWord ++ rest).dropWhile isWhite =
      front.dropWhile isWhite ++ headerWord ++ rest := by
    intro rest
    rw [List.append_assoc, List.dropWhile_append, headerWord_eq]
    split
    · next hnil =>
      rw [List.cons_append, List.dropWhile_cons_of_neg (by decide), List.isEmpty_iff.1 hnil]
      rfl
    · simp
  exact ⟨front.dropWhile isWhite, rest, rest', hrest, hrest', hdrop rest, hdrop rest'⟩

theorem trimEnd (h : SameHeader l l') :
    SameHeader (Text.trimEndWith isWhite l) (Text.trimEndWith isWhite l') := by
  obtain ⟨front, rest, rest', hrest, hrest', rfl, rfl⟩ := h
  have hword : Text.trimEndWith isWhite headerWord = headerWord := by decide
  have htrim : ∀ rest : Text, Text.trimEndWith isWhite (front ++ headerWord ++ rest) =
      front ++ headerWord ++ Text.trimEndWith isWhite rest := by
    intro rest
    rw [Text.trimEndWith_append, Text.trimEndWith_append, hword]
    split
    · next hnil => simp [hnil, headerWord_eq]
    · rfl
  exact ⟨front, _, _, fun hm => hrest (Text.mem_of_mem_trimEndWith hm),
    fun hm => hrest' (Text.mem_of_mem_trimEndWith hm), htrim rest, htrim rest'⟩

theorem mergeBullets (h : SameHeader l l') :
    SameHeader (mergeBullets l) (Wiki.mergeBullets l') := by
  obtain ⟨front, rest, rest', hrest, hrest', rfl, rfl⟩ := h
  have hmerge : ∀ rest : Text, Wiki.mergeBullets (front ++ headerWord ++ rest) =
      Wiki.mergeBullets front ++ headerWord ++ rest := by
    intro rest
    rw [List.append_assoc, headerWord_eq, List.cons_append, mergeBullets_append_brace]
    simp
  exact ⟨_, rest, rest', hrest, hrest', hmerge rest, hmerge rest'⟩

/-! ### Repairs -/

/-- A pass over the characters of a line that stops at the two signs around the word. -/
theorem map {f : Text → Text} (hbrace : ∀ p r, f (p ++ '\x7b' :: r) = f p ++ '\x7b' :: f r)
    (hequals : ∀ p r, f (p ++ '=' :: r) = f p ++ '=' :: f r)
    (hword : f "code:language" = "code:language".toList)
    (hrest : ∀ r : Text, '\x7b' ∉ r → '\x7b' ∉ f r) (h : SameHeader l l') :
    SameHeader (f l) (f l') := by
  obtain ⟨front, rest, rest', hr, hr', rfl, rfl⟩ := h
  have hf : ∀ rest : Text, f (front ++ headerWord ++ rest) = f front ++ headerWord ++ f rest := by
    intro rest
    rw [headerWord_eq, List.append_assoc, List.cons_append, hbrace, List.append_assoc,
      List.singleton_append, hequals, hword]
    simp
  exact ⟨f front, f rest, f rest', hrest rest hr, hrest rest' hr', hf rest, hf rest'⟩

theorem dropMarks (h : SameHeader l l') : SameHeader (dropMarks l) (Wiki.dropMarks l') :=
  h.map (dropMarks_append_cons (by decide) (by decide))
    (dropMarks_append_cons (by decide) (by decide)) (by decide)
    fun r hr hm => hr ((dropMarks_sublist r).mem hm)

theorem escapePairs (h : SameHeader l l') : SameHeader (escapePairs l) (Wiki.escapePairs l') :=
  h.map (escapePairs_append_cons (by decide)) (escapePairs_append_cons (by decide)) (by decide)
    fun _ hr hm => (mem_of_mem_escapePairs hm).elim hr (by decide)

/-- A line closes a code block if the text before the header does. -/
theorem infix_closingWord_iff {front rest : Text} (hrest : '\x7b' ∉ rest) :
    closingWord <:+: front ++ headerWord ++ rest ↔ closingWord <:+: front := by
  have hclosing : closingWord = "\x7bcode".toList ++ ['\x7d'] := by decide
  have hword : headerWord = "\x7bcode".toList ++ ':' :: ("language".toList ++ ['=']) := by decide
  have hcolon : ':' ∉ closingWord := by decide
  have hequals : '=' ∉ closingWord := by decide
  have hrest : ¬ closingWord <:+: rest := fun h => hrest (h.sublist.mem (by decide))
  have hlanguage : ¬ closingWord <:+: "language".toList := by decide
  -- The word reaches across neither the colon nor the equals sign, and it ends in a brace that
  -- the header does not have before them.
  rw [hword]
  simp only [List.append_assoc, List.cons_append, List.nil_append]
  rw [← List.append_assoc, infix_append_cons hcolon, infix_append_cons hequals,
    or_iff_left (not_or.2 ⟨hlanguage, hrest⟩), hclosing]
  exact infix_append_right_of_notMem (by decide)

/-- The repairs do not tell the two lines apart. -/
theorem codeMark?_eq (h : SameHeader l l') : codeMark? l = codeMark? l' := by
  obtain ⟨hword, hword'⟩ := h.infix_headerWord
  have hopens : openingWord <:+: headerWord := by decide
  refine codeMark?_congr (iff_of_true (hopens.trans hword) (hopens.trans hword')) ?_
  obtain ⟨front, rest, rest', hrest, hrest', rfl, rfl⟩ := h
  rw [infix_closingWord_iff hrest, infix_closingWord_iff hrest']

theorem codeMark?_ne_none (h : SameHeader l l') : codeMark? l ≠ none := by
  rw [Ne, codeMark?_eq_none, not_not]
  exact (by decide : openingWord <:+: headerWord).trans h.infix_headerWord.1

theorem openAfter_eq (h : SameHeader l l') (inCode : Bool) :
    openAfter inCode l = openAfter inCode l' := by
  rw [openAfter, openAfter, h.codeMark?_eq]

/-- Both lines lose their markers, -/
theorem clearLine (h : SameHeader l l') (inCode : Bool) :
    SameHeader (clearLine inCode l) (Wiki.clearLine inCode l') := by
  rw [Wiki.clearLine, Wiki.clearLine, ← h.codeMark?_eq, if_neg h.codeMark?_ne_none,
    if_neg h.codeMark?_ne_none]
  exact h.dropMarks

/-- and both are escaped or neither is. -/
theorem escapeLine (h : SameHeader l l') (inCode : Bool) :
    SameHeader (escapeLine inCode l) (Wiki.escapeLine inCode l') := by
  rw [Wiki.escapeLine, Wiki.escapeLine, ← h.codeMark?_eq]
  split
  · exact h
  · exact h.escapePairs

end SameHeader

/-! ## The headers of code blocks -/

/-- Settings whose texts stay on the line that they are written into, and begin no word of
    markup there. -/
structure PlainTexts (settings : Settings) : Prop where
  newline_notMem_theme : '\n' ∉ settings.theme
  brace_notMem_theme : '\x7b' ∉ settings.theme
  newline_notMem_borderStyle : '\n' ∉ settings.borderStyle
  brace_notMem_borderStyle : '\x7b' ∉ settings.borderStyle

theorem brace_notMem_ofTag (lang : Option Text) : '\x7b' ∉ Language.ofTag lang :=
  ofTag_of_table (p := ('\x7b' ∉ ·)) (by decide) (by decide) lang

/-- The header of a code block has one brace that opens, at its front. -/
theorem codeHeader_eq_headerWord {settings : Settings} (h : PlainTexts settings) (code : Text)
    (lang : Option Text) :
    ∃ rest, '\x7b' ∉ rest ∧ codeHeader settings code lang = headerWord ++ rest := by
  have hflag : ∀ b, '\x7b' ∉ flag b := by decide
  rw [codeHeader_eq, headerWord_eq]
  refine ⟨_, ?_, List.append_cons ..⟩
  simp only [List.mem_append, List.mem_cons, List.not_mem_nil, not_or]
  simp only [h.brace_notMem_theme, h.brace_notMem_borderStyle, hflag, brace_notMem_ofTag,
    not_false_eq_true, true_and, and_true]
  decide

/-- **The headers of one code block under different settings** differ behind their first word
    only. -/
theorem sameHeader_codeHeader {settings settings' : Settings} (h : PlainTexts settings)
    (h' : PlainTexts settings') (code : Text) (lang : Option Text) :
    SameHeader (codeHeader settings code lang) (codeHeader settings' code lang) := by
  obtain ⟨rest, hrest, hheader⟩ := codeHeader_eq_headerWord h code lang
  obtain ⟨rest', hrest', hheader'⟩ := codeHeader_eq_headerWord h' code lang
  exact ⟨[], rest, rest', hrest, hrest', hheader, hheader'⟩

end JiraMarkup.Wiki
