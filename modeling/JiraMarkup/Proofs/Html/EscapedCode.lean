/-
  Code blocks of plain text.

  * `inSpan` is code in one span, and `Highlighter.Plain` says what a highlighter does to plain
    text, line by line; `Highlighter.Plain.highlight` puts the lines together;
  * `PlainTag` are the tags of code blocks that are plain text, with their labels;
    `Highlighter.codeBlock_eq` is the block of such a tag;
  * `decodeEntities` reads the five entities back that code is escaped with, and `splitOn_codeBlock`
    cuts a block into its tags;
  * `Highlighter.codeBlock_plain` puts this together: of the code nothing is lost, and it cannot
    end its block.
-/
import JiraMarkup.Html.Highlighter
import JiraMarkup.Proofs.Text.Lines

namespace JiraMarkup

namespace Text

theorem flatten_wholeLines (t : Text) : (wholeLines t).flatten = t := by
  induction t with
  | nil => rfl
  | cons c t ih =>
    rw [wholeLines] at ih ⊢
    rw [sourceLines]
    by_cases hc : c = '\n'
    · rw [if_pos hc, List.map_cons, List.flatten_cons, ih, hc]
      rfl
    · rw [if_neg hc]
      cases hls : sourceLines t with
      | nil =>
        rw [hls] at ih
        rw [← ih]
        rfl
      | cons l ls =>
        rw [hls, List.map_cons, List.flatten_cons] at ih
        have hwhole : SourceLine.whole ⟨c :: l.text, l.ended⟩ = c :: l.whole := by
          rw [SourceLine.whole, SourceLine.whole]
          split <;> rfl
        rw [List.map_cons, List.flatten_cons, hwhole, List.cons_append, ih]

theorem ne_nil_of_mem_wholeLines {l t : Text} (h : l ∈ wholeLines t) : l ≠ [] := by
  suffices hlines : ∀ l ∈ sourceLines t, l.ended = false → l.text ≠ [] by
    obtain ⟨l, hl, rfl⟩ := List.mem_map.1 h
    rw [SourceLine.whole]
    split
    · simp
    · exact hlines l hl (Bool.eq_false_iff.2 ‹_›)
  clear h
  induction t with
  | nil => simp [sourceLines]
  | cons c t ih =>
    rw [sourceLines]
    split
    · simpa using ih
    · split
      · simp
      · next hls =>
        rw [hls, List.forall_mem_cons] at ih
        rw [List.forall_mem_cons]
        exact ⟨fun _ => List.cons_ne_nil _ _, ih.2⟩

end Text

namespace Html

/-! ## Highlighting -/

/-- Code in one span. -/
def inSpan (code : Text) : Text :=
  if code.isEmpty then [] else spanStart ++ escapeQuoted code ++ "</span>"

theorem inSpan_nil : inSpan [] = [] := rfl

theorem inSpan_of_ne_nil {code : Text} (h : code ≠ []) :
    inSpan code = spanStart ++ escapeQuoted code ++ "</span>" := by
  unfold inSpan
  exact if_neg (by simpa using h)

namespace Highlighter

/-- **What is known of a highlighter of plain text**, in whose states `Open s html` says that the
    text `html` has been written and the span in it not been closed. -/
structure Plain (h : Highlighter) (Open : h.State → Text → Prop) : Prop where
  /-- No code is written as nothing. -/
  empty : h.finish (h.start plainText) = []
  /-- The first line opens the span. -/
  first : ∀ l ≠ [], ∃ s, h.line (h.start plainText) l = .ok s ∧
    Open s (spanStart ++ escapeQuoted l)
  /-- All others are written behind it. -/
  next : ∀ s html, Open s html → ∀ l ≠ [],
    ∃ s', h.line s l = .ok s' ∧ Open s' (html ++ escapeQuoted l)
  /-- At the end the span is closed. -/
  close : ∀ s html, Open s html → h.finish s = html ++ "</span>"

variable {h : Highlighter} {Open : h.State → Text → Prop}

/-- Lines are written behind each other. -/
theorem Plain.lines (hplain : h.Plain Open) {s : h.State} {html : Text} (hs : Open s html)
    {ls : List Text} (hls : ∀ l ∈ ls, l ≠ []) :
    ∃ s', ls.foldlM h.line s = .ok s' ∧ Open s' (html ++ escapeQuoted ls.flatten) := by
  induction ls generalizing s html with
  | nil => exact ⟨s, rfl, by simpa [escapeQuoted] using hs⟩
  | cons l ls ih =>
    rw [List.forall_mem_cons] at hls
    obtain ⟨mid, hmid, hopen⟩ := hplain.next s html hs l hls.1
    obtain ⟨s', hs', hopen'⟩ := ih hopen hls.2
    refine ⟨s', ?_, ?_⟩
    · rw [List.foldlM_cons, hmid]
      exact hs'
    · rwa [escapeQuoted, List.flatten_cons, List.flatMap_append, ← List.append_assoc]

/-- **Plain text is written into one span.** -/
theorem Plain.highlight (hplain : h.Plain Open) (code : Text) :
    h.highlight code plainText = .ok (inSpan code) := by
  have hflatten := Text.flatten_wholeLines code
  have hne := fun l hl => Text.ne_nil_of_mem_wholeLines (l := l) (t := code) hl
  rw [Highlighter.highlight]
  cases hlines : Text.wholeLines code with
  | nil =>
    obtain rfl : code = [] := by rw [← hflatten, hlines, List.flatten_nil]
    exact congrArg Except.ok hplain.empty
  | cons l ls =>
    rw [hlines] at hflatten hne
    rw [List.forall_mem_cons] at hne
    obtain ⟨mid, hmid, hopen⟩ := hplain.first l hne.1
    obtain ⟨s, hs, hopen⟩ := hplain.lines hopen hne.2
    have hcode : code ≠ [] := by
      rw [← hflatten, List.flatten_cons]
      exact List.append_ne_nil_of_left_ne_nil hne.1 _
    rw [List.foldlM_cons, hmid]
    change (ls.foldlM h.line mid).map h.finish = _
    rw [hs, inSpan_of_ne_nil hcode, ← hflatten, List.flatten_cons]
    refine congrArg Except.ok ((hplain.close s _ hopen).trans ?_)
    simp only [escapeQuoted, List.flatMap_append, List.append_assoc]

end Highlighter

/-! ## Tags -/

/-- The tags of code blocks that are plain text, with the labels of these blocks. -/
inductive PlainTag : Option Text → Text → Prop where
  /-- There is no tag. -/
  | absent : PlainTag none fallbackLabel
  /-- The tag names no syntax. -/
  | unknown {t : Text} (h : findSyntax? t = none) : PlainTag (some t) fallbackLabel
  /-- The tag names plain text. -/
  | named {t : Text} (h : findSyntax? t = some plainText) : PlainTag (some t) t

theorem PlainTag.resolve {tag : Option Text} {label : Text} (h : PlainTag tag label) :
    Html.resolve tag = (plainText, label) := by
  cases h with
  | absent => rfl
  | unknown h => simp [Html.resolve, h]
  | named h => simp [Html.resolve, h]

/-- The tag that opens a block. -/
def blockStart (label : Text) : Text :=
  "<pre><code class=\"hljs language-" ++ escapeLabel label ++ "\">"

/-- **The block of plain text** has its label and its code in one span. -/
theorem Highlighter.codeBlock_eq {h : Highlighter} {Open : h.State → Text → Prop}
    (hplain : h.Plain Open) {tag : Option Text} {label : Text} (htag : PlainTag tag label)
    (code : Text) :
    h.codeBlock code tag = blockStart label ++ inSpan code ++ "</code></pre>\n" := by
  unfold codeBlock
  simp only [htag.resolve, hplain.highlight]
  rfl

/-! ## Entities -/

/-- The five entities that code is escaped with, and the characters that they stand for. -/
def entities : List (Text × Char) :=
  [("&amp;", '&'), ("&lt;", '<'), ("&gt;", '>'), ("&quot;", '"'), ("&#39;", '\'')]

/-- The character of the entity at the front of a text, and what follows it. -/
def readEntity? (t : Text) : Option (Char × Text) :=
  entities.findSome? fun e => (Text.after? e.1 t).map fun rest => (e.2, rest)

theorem length_lt_of_readEntity? {t rest : Text} {c : Char} (h : readEntity? t = some (c, rest)) :
    rest.length < t.length := by
  obtain ⟨e, he, hrest⟩ := List.exists_of_findSome?_eq_some h
  obtain ⟨rest', hrest', heq⟩ := Option.map_eq_some_iff.1 hrest
  obtain rfl : rest' = rest := congrArg Prod.snd heq
  have hne : ∀ e ∈ entities, 0 < e.1.length := by decide
  rw [Text.after?_eq_some.1 hrest', List.length_append]
  exact Nat.lt_add_of_pos_left (hne e he)

/-- The text with its entities read as the characters that they stand for. Any other ampersand
    stands for itself. -/
def decodeEntities : Text → Text
  | [] => []
  | c :: t =>
    match _hread : readEntity? (c :: t) with
    | some (e, rest) => e :: decodeEntities rest
    | none => c :: decodeEntities t
termination_by t => t.length
decreasing_by
  · exact length_lt_of_readEntity? _hread
  · exact Nat.lt_succ_self _

theorem decodeEntities_of_readEntity? {t rest : Text} {c : Char}
    (h : readEntity? t = some (c, rest)) : decodeEntities t = c :: decodeEntities rest := by
  cases t with
  | nil => cases h
  | cons a t =>
    rw [decodeEntities]
    split
    · next hread => cases hread.symm.trans h; rfl
    · next hread => cases hread.symm.trans h

theorem decodeEntities_cons {c : Char} (hc : c ≠ '&') (t : Text) :
    decodeEntities (c :: t) = c :: decodeEntities t := by
  have hnone : readEntity? (c :: t) = none := by
    simp [readEntity?, entities, Text.after?, Ne.symm hc]
  rw [decodeEntities]
  split
  · next hread => cases hread.symm.trans hnone
  · rfl

theorem decodeEntities_entity {e : Text × Char} (he : e ∈ entities) (t : Text) :
    decodeEntities (e.1 ++ t) = e.2 :: decodeEntities t := by
  refine decodeEntities_of_readEntity? ?_
  simp only [entities, List.mem_cons, List.not_mem_nil, or_false] at he
  rcases he with rfl | rfl | rfl | rfl | rfl <;>
    simp [readEntity?, entities, Text.after?]

/-- A way to escape single characters that writes each one of `marks` as an entity. -/
def Escapes (f : Char → Text) (marks : List Char) : Prop :=
  ∀ c, (f c, c) ∈ entities ∨ c ∉ marks ∧ f c = [c]

theorem escapes_escapeQuotedChar : Escapes escapeQuotedChar ['&', '<', '>', '"', '\''] := by
  intro c
  rw [escapeQuotedChar, escapeTextChar]
  split_ifs <;> simp_all [entities]

theorem escapes_escapeLabel :
    Escapes (fun c => if c = '"' then "&quot;".toList else escapeTextChar c)
      ['&', '<', '>', '"'] := by
  intro c
  simp only [escapeTextChar]
  split_ifs <;> simp_all [entities]

variable {f : Char → Text} {marks : List Char}

/-- **What is escaped is read back.** -/
theorem Escapes.decode (h : Escapes f marks) (hamp : '&' ∈ marks) (t : Text) :
    decodeEntities (t.flatMap f) = t := by
  induction t with
  | nil => exact decodeEntities.eq_1
  | cons c t ih =>
    rw [List.flatMap_cons]
    rcases h c with he | ⟨hc, heq⟩
    · rw [decodeEntities_entity he, ih]
    · rw [heq, List.singleton_append, decodeEntities_cons (ne_of_mem_of_not_mem hamp hc).symm, ih]

/-- There is no mark left in what is escaped, but for the ampersands of entities. -/
theorem Escapes.notMem (h : Escapes f marks) {c : Char} (hc : c ∈ marks)
    (hmark : c ∈ ['<', '>', '"', '\'']) (t : Text) : c ∉ t.flatMap f := by
  have hentities : ∀ e ∈ entities, e.1.all (· ∉ ['<', '>', '"', '\'']) = true := by decide
  rw [List.mem_flatMap]
  rintro ⟨d, -, hd⟩
  rcases h d with he | ⟨hnot, heq⟩
  · exact of_decide_eq_true (List.all_eq_true.1 (hentities _ he) c hd) hmark
  · rw [heq, List.mem_singleton] at hd
    exact hnot (hd ▸ hc)

theorem inSpan_injective : Function.Injective inSpan := by
  intro code code' h
  by_cases hcode : code = [] <;> by_cases hcode' : code' = []
  · rw [hcode, hcode']
  · rw [hcode, inSpan_nil, inSpan_of_ne_nil hcode'] at h
    simp at h
  · rw [hcode', inSpan_nil, inSpan_of_ne_nil hcode] at h
    simp at h
  · rw [inSpan_of_ne_nil hcode, inSpan_of_ne_nil hcode'] at h
    have hinner := List.append_cancel_left (List.append_cancel_right h)
    rw [← escapes_escapeQuotedChar.decode (by simp) code, ← escapeQuoted, hinner, escapeQuoted,
      escapes_escapeQuotedChar.decode (by simp) code']

/-! ## The end of a block -/

/-- The texts between the signs that open the tags of a block, but for its last two tags. -/
def blockPieces (label code : Text) : List Text :=
  [[], "pre>".toList, "code class=\"hljs language-".toList ++ escapeLabel label ++ "\">".toList] ++
    if code = [] then []
    else ["span class=\"text plain\">".toList ++ escapeQuoted code, "/span>".toList]

theorem splitOn_blockPieces (label code : Text) :
    (blockStart label ++ inSpan code).splitOn '<' = blockPieces label code := by
  have hlabel : '<' ∉ escapeLabel label := escapes_escapeLabel.notMem (by simp) (by simp) label
  have hcode : '<' ∉ escapeQuoted code := escapes_escapeQuotedChar.notMem (by simp) (by simp) code
  have hpieces : ∀ p ∈ blockPieces label code, '<' ∉ p := by
    unfold blockPieces
    split <;> simp [hlabel, hcode]
  have hjoin : blockStart label ++ inSpan code = ['<'].intercalate (blockPieces label code) := by
    unfold blockStart blockPieces
    split
    · next hcode =>
      rw [hcode, inSpan_nil]
      simp [List.intercalate]
    · next hcode =>
      rw [inSpan_of_ne_nil hcode]
      unfold spanStart
      simp [List.intercalate]
  rw [hjoin, List.splitOn_intercalate _ hpieces]
  unfold blockPieces
  exact List.cons_ne_nil _ _

/-- No tag before the end of a block closes it. -/
theorem closing_notMem_blockPieces (label code : Text) :
    "/code>".toList ∉ blockPieces label code := by
  unfold blockPieces
  split <;> simp

/-- **A block is closed at its end only.** -/
theorem eq_newline_of_closing {label code a b : Text}
    (h : blockStart label ++ inSpan code ++ "</code></pre>\n" = a ++ "</code></pre>" ++ b) :
    b = ['\n'] := by
  have hends : '<' ∉ "/code>".toList ∧ '<' ∉ "/pre>\n".toList := by simp
  have hblock : blockStart label ++ inSpan code ++ "</code></pre>\n" =
      (blockStart label ++ inSpan code) ++ '<' :: ("/code>".toList ++ '<' :: "/pre>\n".toList) := by
    simp
  have hclosing : blockStart label ++ inSpan code ++ "</code></pre>\n" =
      a ++ '<' :: ("/code>".toList ++ '<' :: ("/pre>".toList ++ b)) := by
    rw [h]
    simp
  -- Cut at the signs that open tags, the two ways to write the block have its closing tags once.
  have hcut := congrArg (List.splitOn '<') (hblock.symm.trans hclosing)
  simp only [List.splitOn_append_cons_self, splitOn_blockPieces,
    List.splitOn_eq_singleton hends.1, List.splitOn_eq_singleton hends.2,
    List.singleton_append] at hcut
  have hlast : "/code>".toList ∉ ["/pre>\n".toList] := by simp
  obtain ⟨-, -, hrest⟩ :=
    (List.append_cons_inj_of_notMem (closing_notMem_blockPieces label code) hlast).1 hcut
  have hjoin := congrArg (['<'].intercalate ·) hrest
  simp only [List.intercalate_splitOn, List.intercalate_singleton] at hjoin
  simpa using hjoin.symm

/-- **Code that is plain text is lost in no part and cannot end its block.** This is so for code
    without a tag, with a tag that names no syntax, and with one that names plain text. The block
    has its label between quotes and its code in one span, where nothing but an entity is written
    with a mark, and the entities are read back to the code. The end tags are at the end only, and
    different code makes a different block. -/
theorem Highlighter.codeBlock_plain {h : Highlighter} {Open : h.State → Text → Prop}
    (hplain : h.Plain Open) {tag : Option Text} {label : Text} (htag : PlainTag tag label)
    (code : Text) :
    (∃ body : Text, h.codeBlock code tag = "<pre><code class=\"hljs language-" ++
        escapeLabel label ++ "\">" ++ body ++ "</code></pre>\n" ∧
      (∀ c ∈ ['<', '>', '"'], c ∉ escapeLabel label) ∧
      decodeEntities (escapeLabel label) = label ∧
      (code = [] ∧ body = [] ∨ code ≠ [] ∧ ∃ inner : Text,
        body = "<span class=\"text plain\">" ++ inner ++ "</span>" ∧
        (∀ c ∈ ['<', '>', '"', '\''], c ∉ inner) ∧ decodeEntities inner = code)) ∧
    (∀ a b : Text, h.codeBlock code tag = a ++ "</code></pre>" ++ b → b = ['\n']) ∧
    ∀ code', h.codeBlock code' tag = h.codeBlock code tag → code' = code := by
  simp only [codeBlock_eq hplain htag]
  refine ⟨⟨inSpan code, rfl, fun c hc => ?_, ?_, ?_⟩, fun a b h => eq_newline_of_closing h,
    fun code' hsame => ?_⟩
  · exact escapes_escapeLabel.notMem (List.mem_cons_of_mem _ hc)
      (List.mem_append_left ['\''] hc) label
  · exact escapes_escapeLabel.decode (by simp) label
  · by_cases hcode : code = []
    · exact .inl ⟨hcode, by rw [hcode, inSpan_nil]⟩
    · refine .inr ⟨hcode, escapeQuoted code, inSpan_of_ne_nil hcode, fun c hc => ?_, ?_⟩
      · exact escapes_escapeQuotedChar.notMem (List.mem_cons_of_mem _ hc) hc code
      · exact escapes_escapeQuotedChar.decode (by simp) code
  · exact inSpan_injective (List.append_cancel_left (List.append_cancel_right hsame))

/-- Code that would end its block and read as an entity, of a kind that is named in other
    letters. -/
theorem Highlighter.codeBlock_plain_hostile :
    let code : Text := "</code></pre>\n&lt;'"
    (∀ a b : Text, plainHighlighter.codeBlock code (some "TXT".toList) =
      a ++ "</code></pre>" ++ b → b = ['\n']) ∧
    plainHighlighter.codeBlock code (some "TXT".toList) =
      "<pre><code class=\"hljs language-TXT\"><span class=\"text plain\">".toList ++
        "&lt;/code&gt;&lt;/pre&gt;\n&amp;lt;&#39;</span></code></pre>\n".toList := by
  intro code
  have hplain : plainHighlighter.Plain fun s html => s = .ok (some html) :=
    { empty := rfl
      first := fun l _ => ⟨_, rfl, rfl⟩
      next := by
        rintro _ html rfl l -
        exact ⟨_, rfl, rfl⟩
      close := by
        rintro _ html rfl
        rfl }
  have htag : PlainTag (some "TXT".toList) "TXT" := .named (by decide +kernel)
  obtain ⟨-, hclosed, -⟩ := Highlighter.codeBlock_plain hplain htag code
  refine ⟨hclosed, ?_⟩
  rw [Highlighter.codeBlock_eq hplain htag]
  decide +kernel

end Html

end JiraMarkup
