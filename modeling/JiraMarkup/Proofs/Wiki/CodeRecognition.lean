/-
  What the repairs take for code.

  They look for the words that open and close code blocks in the lines of the output, where any
  other construct may have put these words.

  * `codeFlags` are the lines that a pass takes for code, and `Fits` says which lines do not
    lead it astray at the next one;
  * `Balanced.codeFlags_iff`: both passes take the lines of code for code, and no others,
    exactly if each line fits the next;
  * `forall₂_repaired`: what comes of the lines then;
  * `codeFlags_renderWiki` says so for the conversion of a text.
-/
import JiraMarkup.Conversion
import JiraMarkup.Proofs.Wiki.BalancedLines
import JiraMarkup.Proofs.Wiki.TreeRendering
import Mathlib.Data.List.Chain

namespace JiraMarkup.Wiki

/-! ## Lines that are taken for code -/

/-- Which lines a pass takes for code; `inCode` if it does so before the first. -/
def codeFlags (inCode : Bool) : List Text → List Bool
  | [] => []
  | l :: ls => (inCode && codeMark? l == none) :: codeFlags (openAfter inCode l) ls

/-- Whether a line is one of code. -/
def isCode (l : MarkedLine) : Bool := l.1 == .body

/-- A line that opens a code block must do so even without markers if there is code in it.
    Where a line outside code blocks opens one, the next line there must open or close one. -/
def Fits : MarkedLine → MarkedLine → Prop
  | (.header, l), (.body, _) => ¬ closingWord <:+: dropMarks l
  | (.plain, l), (.plain, l') => codeMark? l = some .opens → codeMark? l' ≠ none
  | _, _ => True

theorem codeFlags_append (inCode : Bool) (as bs : List Text) :
    codeFlags inCode (as ++ bs) = codeFlags inCode as ++ codeFlags (openAfterAll inCode as) bs := by
  induction as generalizing inCode with
  | nil => rfl
  | cons a as ih =>
    rw [List.cons_append, codeFlags, codeFlags, ih, List.cons_append]
    rfl

/-- The flags of a line that is a mark, and of those after it. -/
theorem codeFlags_cons_mark {l : Text} (h : codeMark? l ≠ none) (inCode : Bool)
    (ls : List Text) :
    codeFlags inCode (l :: ls) = false :: codeFlags (codeMark? l == some .opens) ls := by
  rw [codeFlags, openAfter_of_mark h, beq_eq_false_iff_ne.2 h, Bool.and_false]

/-! ## The first pass and the second -/

theorem openingWord_infix_dropMarks {l : Text} (h : openingWord <:+: l) :
    openingWord <:+: dropMarks l := infix_dropMarks (by decide) (by decide) h

theorem closingWord_infix_dropMarks {l : Text} (h : closingWord <:+: l) :
    closingWord <:+: dropMarks l := infix_dropMarks (by decide) (by decide) h

theorem clearLine_of_ne_none {l : Text} (h : codeMark? l ≠ none) (inCode : Bool) :
    clearLine inCode l = dropMarks l := if_neg h

theorem codeMark?_dropMarks_ne_none {l : Text} (h : codeMark? l ≠ none) :
    codeMark? (dropMarks l) ≠ none := by
  rw [Ne, codeMark?_eq_none, not_not] at h ⊢
  exact openingWord_infix_dropMarks h

theorem codeMark?_dropMarks_of_closes {l : Text} (h : codeMark? l = some .closes) :
    codeMark? (dropMarks l) = some .closes := by
  rw [codeMark?_eq_closes] at h ⊢
  exact closingWord_infix_dropMarks h

/-- The second pass takes no line for one that opens a block if the first does not. -/
theorem codeMark?_of_dropMarks_opens {l : Text} (h : codeMark? l ≠ none)
    (hd : codeMark? (dropMarks l) = some .opens) : codeMark? l = some .opens := by
  rcases hl : codeMark? l with _ | _ | _
  · exact absurd hl h
  · rfl
  · rw [codeMark?_dropMarks_of_closes hl] at hd
    cases hd

theorem opens_of_dropMarks {l : Text} (h : codeMark? l ≠ none) :
    (codeMark? (dropMarks l) == some .opens) = true → (codeMark? l == some .opens) = true :=
  fun hd => beq_iff_eq.2 (codeMark?_of_dropMarks_opens h (beq_iff_eq.1 hd))

/-- Both passes over a mark. -/
theorem codeFlags_mark_iff {l : Text} (h : codeMark? l ≠ none) (ls : List Text) (bs : List Bool)
    (inClear inEscape : Bool) :
    (codeFlags inClear (l :: ls) = false :: bs ∧
        codeFlags inEscape (clearLines inClear (l :: ls)) = false :: bs) ↔
      codeFlags (codeMark? l == some .opens) ls = bs ∧
        codeFlags (codeMark? (dropMarks l) == some .opens)
          (clearLines (codeMark? l == some .opens) ls) = bs := by
  rw [clearLines_cons, clearLine_of_ne_none h, codeFlags_cons_mark h,
    codeFlags_cons_mark (codeMark?_dropMarks_ne_none h), openAfter_of_mark h, List.cons.injEq,
    List.cons.injEq, eq_self, true_and, true_and]

/-! ## Code -/

section
variable {code : List Text} (h : ∀ l ∈ code, ¬ openingWord <:+: l)

include h

theorem openAfterAll_code (inCode : Bool) : openAfterAll inCode code = inCode := by
  induction code with
  | nil => rfl
  | cons l ls ih =>
    rw [List.forall_mem_cons] at h
    rw [openAfterAll, List.foldl_cons, openAfter_of_none (codeMark?_eq_none.2 h.1)]
    exact ih h.2

theorem codeFlags_code (inCode : Bool) :
    codeFlags inCode code = List.replicate code.length inCode := by
  induction code with
  | nil => rfl
  | cons l ls ih =>
    rw [List.forall_mem_cons] at h
    have hl := codeMark?_eq_none.2 h.1
    rw [codeFlags, openAfter_of_none hl, ih h.2, hl, List.length_cons, List.replicate_succ]
    simp

theorem not_infix_clearLines_code (inCode : Bool) :
    ∀ l ∈ clearLines inCode code, ¬ openingWord <:+: l := by
  induction code with
  | nil => simp [clearLines]
  | cons l ls ih =>
    rw [List.forall_mem_cons] at h
    have hl := codeMark?_eq_none.2 h.1
    rw [clearLines_cons, openAfter_of_none hl, List.forall_mem_cons, clearLine, if_pos hl]
    refine ⟨?_, ih h.2⟩
    split
    · exact fun hm => h.1 (hm.trans (dropHash_suffix l).isInfix)
    · exact h.1

end

/-! ## Whole code blocks -/

/-- The flags of the lines of a code block and of those after it. A pass has its flag down
    after the block, and has it up in the code if the first line opens a block for it. -/
theorem codeFlags_block {header closer : Text} {code : List Text} (ls : List Text)
    (hheader : codeMark? header ≠ none) (hcode : ∀ l ∈ code, ¬ openingWord <:+: l)
    (hcloser : codeMark? closer = some .closes) (inCode : Bool) :
    codeFlags inCode (header :: (code ++ closer :: ls)) =
      false :: (List.replicate code.length (codeMark? header == some .opens) ++
        false :: codeFlags false ls) := by
  have hlast : codeMark? closer ≠ none := by rw [hcloser]; simp
  rw [codeFlags_cons_mark hheader, codeFlags_append, codeFlags_code hcode, openAfterAll_code hcode,
    codeFlags_cons_mark hlast, hcloser]
  rfl

theorem clearLines_block {header closer : Text} {code : List Text} (ls : List Text)
    (hheader : codeMark? header ≠ none) (hcode : ∀ l ∈ code, ¬ openingWord <:+: l)
    (hcloser : codeMark? closer = some .closes) (inCode : Bool) :
    clearLines inCode (header :: (code ++ closer :: ls)) =
      dropMarks header :: (clearLines (openAfter inCode header) code ++
        dropMarks closer :: clearLines false ls) := by
  rw [clearLines_cons, clearLine_of_ne_none hheader, clearLines_append, openAfterAll_code hcode,
    clearLines_cons, clearLine_of_ne_none (by rw [hcloser]; simp), openAfter_of_closes hcloser]

/-- The flags of a code block tell whether its code is taken for code. -/
theorem blockFlags_inj {n : Nat} {a : Bool} {as bs : List Bool} :
    false :: (List.replicate n a ++ false :: as) =
      false :: (List.replicate n true ++ false :: bs) ↔ (n ≠ 0 → a = true) ∧ as = bs := by
  rcases a with _ | _
  · rcases n with _ | n <;> simp [List.replicate_succ]
  · simp

/-- Both passes over a code block: what is left to ask is whether it still opens without
    markers, if there is code in it, and what they do after it. -/
theorem codeFlags_block_iff {header closer : Text} {code : List Text} (ls : List Text)
    (bs : List Bool) (hheader : openingWord <:+: header) (hcode : ∀ l ∈ code, ¬ openingWord <:+: l)
    (hcloser : closingWord <:+: closer) (inClear inEscape : Bool) :
    (codeFlags inClear (header :: (code ++ closer :: ls)) =
          false :: (List.replicate code.length true ++ false :: bs) ∧
        codeFlags inEscape (clearLines inClear (header :: (code ++ closer :: ls))) =
          false :: (List.replicate code.length true ++ false :: bs)) ↔
      (code.length ≠ 0 → ¬ closingWord <:+: dropMarks header) ∧
        codeFlags false ls = bs ∧ codeFlags false (clearLines false ls) = bs := by
  have hmark : codeMark? header ≠ none := by
    rw [Ne, codeMark?_eq_none, not_not]
    exact hheader
  have hmark' := codeMark?_dropMarks_ne_none hmark
  have hclose : codeMark? closer = some .closes := codeMark?_eq_closes.2 hcloser
  have hclose' := codeMark?_dropMarks_of_closes hclose
  have hcode' := not_infix_clearLines_code hcode (openAfter inClear header)
  have hopens : (codeMark? (dropMarks header) == some .opens) = true ↔
      ¬ closingWord <:+: dropMarks header := by
    rw [beq_iff_eq, codeMark?_eq_opens, and_iff_right (openingWord_infix_dropMarks hheader)]
  have hboth := opens_of_dropMarks hmark
  rw [clearLines_block _ hmark hcode hclose, codeFlags_block _ hmark hcode hclose,
    codeFlags_block _ hmark' hcode' hclose', length_clearLines, blockFlags_inj, blockFlags_inj,
    hopens]
  constructor
  · rintro ⟨⟨-, hclear⟩, hfits, hescape⟩
    exact ⟨hfits, hclear, hescape⟩
  · rintro ⟨hfits, hclear, hescape⟩
    exact ⟨⟨fun hne => hboth (hopens.2 (hfits hne)), hclear⟩, hfits, hescape⟩

/-! ## Marked lines -/

theorem isChain_block {header closer : Text} {code : List Text} {ls : List MarkedLine} :
    ((LineKind.header, header) :: (code.map (.body, ·) ++ (.closer, closer) :: ls)).IsChain Fits ↔
      (code.length ≠ 0 → ¬ closingWord <:+: dropMarks header) ∧ ls.IsChain Fits := by
  have hcloser : ((LineKind.closer, closer) :: ls).IsChain Fits ↔ ls.IsChain Fits := by
    rw [List.isChain_cons, and_iff_right]
    exact fun _ _ => trivial
  have hcode : ∀ code : List Text,
      (code.map (LineKind.body, ·) ++ (.closer, closer) :: ls).IsChain Fits ↔ ls.IsChain Fits := by
    intro code
    induction code with
    | nil => exact hcloser
    | cons l code ih =>
      rw [List.map_cons, List.cons_append, List.isChain_cons, ih, and_iff_right]
      exact fun _ _ => trivial
  rw [List.isChain_cons, hcode]
  cases code with
  | nil => simp [Fits]
  | cons l code => simp [Fits]

theorem map_isCode_block {header closer : Text} {code : List Text} (ls : List MarkedLine) :
    ((LineKind.header, header) :: (code.map (.body, ·) ++ (.closer, closer) :: ls)).map isCode =
      false :: (List.replicate code.length true ++ false :: ls.map isCode) := by
  simp [isCode, Function.comp_def]

theorem map_snd_block {header closer : Text} {code : List Text} (ls : List MarkedLine) :
    ((LineKind.header, header) :: (code.map (.body, ·) ++ (.closer, closer) :: ls)).map Prod.snd =
      header :: (code ++ closer :: ls.map Prod.snd) := by
  simp [Function.comp_def]

/-- What a flag before some lines needs: if it is up, the next line must be a mark, unless it is
    one of a code block. -/
def Resumes (inCode : Bool) (ls : List MarkedLine) : Prop :=
  inCode = true → ∀ l ∈ ls.head?, l.1 = .plain → codeMark? l.2 ≠ none

theorem resumes_false (ls : List MarkedLine) : Resumes false ls := fun h => by cases h

theorem isChain_plain_of_ne_opens {l : Text} {ls : List MarkedLine}
    (h : codeMark? l ≠ some .opens) :
    ((LineKind.plain, l) :: ls).IsChain Fits ↔ ls.IsChain Fits := by
  rw [List.isChain_cons, and_iff_right]
  rintro ⟨_ | _ | _ | _, l'⟩ -
  · exact fun hl => absurd hl h
  all_goals trivial

theorem isChain_plain_of_opens {l : Text} {ls : List MarkedLine}
    (h : codeMark? l = some .opens) :
    ((LineKind.plain, l) :: ls).IsChain Fits ↔ ls.IsChain Fits ∧ Resumes true ls := by
  rw [List.isChain_cons, and_comm]
  refine and_congr_right fun _ => ⟨fun hfits _ l' hl' hplain => ?_, fun hres l' hl' => ?_⟩
  · obtain ⟨k, l'⟩ := l'
    cases hplain
    exact hfits _ hl' h
  · obtain ⟨_ | _ | _ | _, l'⟩ := l'
    · exact fun _ => hres rfl _ hl' rfl
    all_goals trivial

/-- **Both passes take the lines of code for code, and no others, exactly if each line fits
    the next.** The first pass may have its flag up before these lines, and the second only
    together with it. -/
theorem Balanced.codeFlags_iff {ls : List MarkedLine} (h : Balanced ls) {inClear inEscape : Bool}
    (himp : inEscape = true → inClear = true) :
    (codeFlags inClear (ls.map Prod.snd) = ls.map isCode ∧
        codeFlags inEscape (clearLines inClear (ls.map Prod.snd)) = ls.map isCode) ↔
      ls.IsChain Fits ∧ Resumes inClear ls := by
  induction h generalizing inClear inEscape with
  | nil => simp [codeFlags, clearLines, Resumes]
  | @plain l ls _ ih =>
    have hplain : isCode (.plain, l) = false := rfl
    rw [List.map_cons, List.map_cons, hplain]
    by_cases hl : codeMark? l = none
    · have hopens : codeMark? l ≠ some .opens := by rw [hl]; simp
      cases inClear with
      | true =>
        -- The first pass takes the line for code, and the line is no mark.
        simp [codeFlags, hl, Resumes]
      | false =>
        have hescape : inEscape = false := by simpa using himp
        have hclear : clearLine false l = l := by rw [clearLine, if_pos hl]; rfl
        rw [clearLines_cons, hescape, hclear, codeFlags, codeFlags, openAfter_of_none hl,
          Bool.false_and, List.cons.injEq, List.cons.injEq, eq_self, true_and, true_and,
          isChain_plain_of_ne_opens hopens, ih fun h => h, and_iff_left (resumes_false _),
          and_iff_left (resumes_false _)]
    · have hresumes : Resumes inClear ((.plain, l) :: ls) := by simp [Resumes, hl]
      rw [codeFlags_mark_iff hl, ih (opens_of_dropMarks hl), and_iff_left hresumes]
      by_cases hopens : codeMark? l = some .opens
      · rw [isChain_plain_of_opens hopens, beq_iff_eq.2 hopens]
      · rw [isChain_plain_of_ne_opens hopens, beq_eq_false_iff_ne.2 hopens,
          and_iff_left (resumes_false _)]
  | @block header closer code ls hheader hcode hcloser _ ih =>
    have hresumes : Resumes inClear
        ((.header, header) :: (code.map (.body, ·) ++ (.closer, closer) :: ls)) := by
      simp [Resumes]
    have ih := ih fun h : false = true => h
    rw [and_iff_left (resumes_false ls)] at ih
    rw [map_snd_block, map_isCode_block, codeFlags_block_iff _ _ hheader hcode hcloser, ih,
      isChain_block, and_iff_left hresumes]

/-! ## What comes of the lines -/

/-- What comes of a line when the passes take nothing but code for code. -/
structure Repaired (l : MarkedLine) (l' : Text) : Prop where
  /-- Code loses one number sign at its front, and nothing in it is escaped. -/
  code : l.1 = .body → l' = dropHash l.2
  /-- Other lines keep what is at their front and are escaped, -/
  text : l.1 ≠ .body → codeMark? l.2 = none → l' = escapePairs l.2
  /-- except that lines with a word that opens or closes a block lose markers. -/
  mark : codeMark? l.2 ≠ none → l' = dropMarks l.2 ∨ l' = escapePairs (dropMarks l.2)

theorem repaired_escapeLine {l : MarkedLine} {inClear inEscape : Bool}
    (hclear : (inClear && codeMark? l.2 == none) = isCode l)
    (hescape : (inEscape && codeMark? (clearLine inClear l.2) == none) = isCode l) :
    Repaired l (escapeLine inEscape (clearLine inClear l.2)) := by
  refine ⟨fun hk => ?_, fun hk hl => ?_, fun hl => ?_⟩
  · have hcode : isCode l = true := beq_iff_eq.2 hk
    rw [hcode, Bool.and_eq_true, beq_iff_eq] at hclear hescape
    rw [escapeLine, if_pos (.inl hescape.1), clearLine, if_pos hclear.2, if_pos hclear.1]
  · have hcode : isCode l = false := beq_eq_false_iff_ne.2 hk
    rw [hcode, hl, beq_self_eq_true, Bool.and_true] at hclear
    have hline : clearLine inClear l.2 = l.2 := by rw [clearLine, if_pos hl, hclear]; rfl
    rw [hcode, hline, hl, beq_self_eq_true, Bool.and_true] at hescape
    rw [hline, escapeLine, if_neg (by simp [hescape, hl])]
  · rw [clearLine_of_ne_none hl, escapeLine]
    split
    · exact .inl rfl
    · exact .inr rfl

theorem forall₂_repaired {ls : List MarkedLine} {inClear inEscape : Bool}
    (hclear : codeFlags inClear (ls.map Prod.snd) = ls.map isCode)
    (hescape : codeFlags inEscape (clearLines inClear (ls.map Prod.snd)) = ls.map isCode) :
    List.Forall₂ Repaired ls (repairLines inClear inEscape (ls.map Prod.snd)) := by
  induction ls generalizing inClear inEscape with
  | nil => exact .nil
  | cons l ls ih =>
    rw [List.map_cons, List.map_cons, codeFlags, List.cons.injEq] at hclear
    rw [List.map_cons, List.map_cons, clearLines_cons, codeFlags, List.cons.injEq] at hescape
    rw [List.map_cons, repairLines_cons]
    exact .cons (repaired_escapeLine hclear.1 hescape.1) (ih hclear.2 hescape.2)

/-- What the repairs of a text take for code, given its marked lines. -/
theorem Balanced.repair_iff {out : Text} {ls : List MarkedLine} (h : Balanced ls)
    (hlines : Text.lines out = ls.map Prod.snd) :
    ((codeFlags false (Text.lines out) = ls.map isCode ∧
        codeFlags false (Text.lines (clearListMarks out)) = ls.map isCode) ↔ ls.IsChain Fits) ∧
      (ls.IsChain Fits → List.Forall₂ Repaired ls (Text.lines (repair out))) := by
  have hiff := h.codeFlags_iff fun h : false = true => h
  rw [and_iff_left (resumes_false ls)] at hiff
  rw [lines_clearListMarks, lines_repair, hlines]
  refine ⟨hiff, fun hfits => ?_⟩
  obtain ⟨hclear, hescape⟩ := hiff.2 hfits
  exact forall₂_repaired hclear hescape

/-! ## Conversions -/

/-- The marked lines of what a Markdown text is rendered as. -/
def markedLines (t : Text) (settings : Settings) : List MarkedLine :=
  (Marked.ofBlocks settings (Markdown.read t)).lines

theorem lines_renderWiki (t : Text) {settings : Settings} (htheme : '\n' ∉ settings.theme)
    (hborder : '\n' ∉ settings.borderStyle) :
    Text.lines (renderWiki t settings).output = (markedLines t settings).map Prod.snd := by
  obtain ⟨hlined, htext⟩ := Marked.renders_ofBlocks htheme hborder (Markdown.read t)
  have hout : (renderWiki t settings).output = _ := (render_events ..).trans htext.symm
  rw [hout]
  exact Text.lines_unlines (by simp [Marked.lines]) (List.forall_mem_map.2 hlined)

/-- **When the repairs take code for code.** The lines of what a text is rendered as are those
    that follow the recursion on its document. Both passes take the lines of code for code,
    and no others, exactly if each of these lines fits the next; and then the lines of code
    come out with a number sign less, all others with their underscores escaped. -/
theorem codeFlags_renderWiki (t : Text) (settings : Settings) (htheme : '\n' ∉ settings.theme)
    (hborder : '\n' ∉ settings.borderStyle)
    (hcode : ∀ c ∈ codeBodiesAll (Markdown.read (Text.normalizeLineEndings t)),
      ¬ openingWord <:+: c) :
    let out := (renderWiki (Text.normalizeLineEndings t) settings).output
    let ls := markedLines (Text.normalizeLineEndings t) settings
    Text.lines out = ls.map Prod.snd ∧
      ((codeFlags false (Text.lines out) = ls.map isCode ∧
          codeFlags false (Text.lines (clearListMarks out)) = ls.map isCode) ↔
        ls.IsChain Fits) ∧
      (ls.IsChain Fits → List.Forall₂ Repaired ls (Text.lines (convert t settings).output)) := by
  have hconvert : (convert t settings).output =
      repair (renderWiki (Text.normalizeLineEndings t) settings).output := by
    simp only [convert]
  have hlines := lines_renderWiki (Text.normalizeLineEndings t) htheme hborder
  have hbalanced : Balanced (markedLines (Text.normalizeLineEndings t) settings) :=
    (Marked.balanced_ofBlocks settings _ hcode).append (.plain _ .nil)
  rw [hconvert]
  exact ⟨hlines, hbalanced.repair_iff hlines⟩

/-- Running text can have the word in it that opens a block, and lines after it are taken for
    code. -/
theorem codeFlags_renderWiki_codegen :
    let t := Text.normalizeLineEndings "`codegen`\n\nmy__key"
    '\n' ∉ Settings.default.theme ∧ '\n' ∉ Settings.default.borderStyle ∧
      (∀ c ∈ codeBodiesAll (Markdown.read t), ¬ openingWord <:+: c) ∧
      ¬ (codeFlags false (Text.lines (renderWiki t .default).output) =
            (markedLines t .default).map isCode ∧
          codeFlags false (Text.lines (clearListMarks (renderWiki t .default).output)) =
            (markedLines t .default).map isCode) := by
  intro t
  have htheme : '\n' ∉ Settings.default.theme := by decide
  have hborder : '\n' ∉ Settings.default.borderStyle := by decide
  have hcode : ∀ c ∈ codeBodiesAll (Markdown.read t), ¬ openingWord <:+: c := by decide +kernel
  have hlines : markedLines t .default = [(.plain, "\x7b\x7bcodegen\x7d\x7d".toList), (.plain, []),
      (.plain, "my__key".toList), (.plain, []), (.plain, [])] := by decide +kernel
  have hfits : ¬ (markedLines t .default).IsChain Fits := by
    rw [hlines]
    intro hchain
    exact (List.isChain_cons_cons.1 hchain).1 (by decide) (by decide)
  exact ⟨htheme, hborder, hcode,
    ((codeFlags_renderWiki "`codegen`\n\nmy__key" .default htheme hborder hcode).2.1).not.2 hfits⟩

end JiraMarkup.Wiki
