/-
  Reading a document that is one fenced code block.

  * `line_opens`, `line_inside` and `line_closes` say what the reader makes of the line that
    opens a block between fences, of a line in it, and of the line that closes it; they hold
    after any blocks that the document has so far;
  * `lines_inside` goes on from one line of code to the next;
  * `read_fenced`: a document that is `fenced` is read as one code block, whose lines are as
    written and whose info string is its tag.
-/
import JiraMarkup.Markdown.Reading
import JiraMarkup.Proofs.Text.Trimming

namespace JiraMarkup.Markdown

open Text (SourceLine)

/-! ## Tags -/

/-- A word that may stand behind a fence, and that stands for itself there. -/
structure FenceTag (tag : Text) : Prop where
  unwhite : ∀ c ∈ tag, isWhite c = false
  backtick_notMem : '\x60' ∉ tag
  backslash_notMem : '\\' ∉ tag
  ampersand_notMem : '&' ∉ tag
  /-- A reader may put another character in its place. -/
  null_notMem : '\x00' ∉ tag

theorem isWhite_of_isSpacing {c : Char} (h : isSpacing c = true) : isWhite c = true := by
  simp only [isSpacing, isBlank, Bool.or_eq_true, beq_iff_eq] at h
  rcases h with ((((rfl | rfl) | rfl) | rfl) | rfl) | rfl <;> decide

/-- A text without backslashes and ampersands has nothing to replace. -/
theorem unescape_of_notMem {t : Text} (hslash : '\\' ∉ t) (hand : '&' ∉ t) : unescape t = t := by
  rw [unescape]
  induction t with
  | nil => rfl
  | cons c t ih =>
    rw [List.mem_cons, not_or] at hslash hand
    unfold unescapeFrom
    rw [if_neg (Ne.symm hslash.1), if_neg (Ne.symm hand.1), ih hslash.2 hand.2]

/-- The info string of a fence with a tag behind it. -/
theorem FenceTag.info {tag : Text} (h : FenceTag tag) :
    unescape (Text.trimEndWith isSpacing (tag.dropWhile isBlank)) = tag := by
  have hspacing : ∀ c ∈ tag, isSpacing c = false := fun c hc =>
    Bool.eq_false_iff.2 fun hs => by
      have := isWhite_of_isSpacing hs
      rw [h.unwhite c hc] at this
      cases this
  have hblank : ∀ c ∈ tag, isBlank c = false := fun c hc => by
    have := hspacing c hc
    rw [isSpacing, Bool.or_eq_false_iff, Bool.or_eq_false_iff] at this
    exact this.1.1
  rw [Text.dropWhile_of_forall hblank, Text.trimEndWith_of_forall hspacing,
    unescape_of_notMem h.backslash_notMem h.ampersand_notMem]

/-! ## Fences -/

theorem takeWhile_mark {mark : Char} {t : Text} (h : mark ∉ t) : t.takeWhile (· == mark) = [] := by
  cases t with
  | nil => rfl
  | cons c t =>
    rw [List.mem_cons, not_or] at h
    exact List.takeWhile_cons_of_neg (by simpa using Ne.symm h.1)

/-- A line without the mark of a fence does not close the code block. -/
theorem closesFence_of_notMem {mark : Char} {length : Nat} {t : Text} (hlength : 0 < length)
    (h : mark ∉ t) : closesFence mark length t = false := by
  rw [closesFence, takeWhile_mark h]
  simp [Nat.not_le.2 hlength]

theorem fence?_backticks {t : Text} (h : '\x60' ∉ t) :
    fence? ('\x60' :: '\x60' :: '\x60' :: t) = some ('\x60', 3) := by
  have hrun : ('\x60' :: '\x60' :: t).takeWhile (· == '\x60') = ['\x60', '\x60'] := by
    simp [takeWhile_mark h]
  rw [fence?, hrun]
  simp [h]

namespace Cursor

theorem pass_suffix (n col : Nat) (t : Text) : (pass n col t).2.rest <:+ t := by
  induction t generalizing n col with
  | nil => exact List.suffix_refl _
  | cons c t ih =>
    rw [pass]
    split
    · exact List.suffix_refl _
    split
    · exact (ih _ _).trans (List.suffix_cons _ _)
    split
    · show (if 4 - col % 4 ≤ n then _ else _ : Nat × Cursor).2.rest <:+ c :: t
      split
      · exact (ih _ _).trans (List.suffix_cons _ _)
      · exact List.suffix_cons _ _
    · exact List.suffix_refl _

/-- Passing indentation leaves out the front of a line. -/
theorem skipColumns_suffix (n : Nat) (c : Cursor) : (c.skipColumns n).2.rest <:+ c.rest := by
  rw [skipColumns]
  split
  · exact List.suffix_refl _
  · exact pass_suffix ..

end Cursor

namespace BlockReading

variable {s : BlockReading} {done : List (Block Source)}

/-- Every line stands in the document. -/
theorem enterAll_document (h : s.frames = [.document done]) (l : Text) :
    s.enterAll l = (1, .ofLine l) := by
  rw [enterAll, h]
  rfl

theorem finishList_document (h : s.frames = [.document done]) :
    s.finishList = { s with blankBefore := false, itemFresh := false } := by
  obtain ⟨frames, leaf, blank, fresh, defs, taken⟩ := s
  cases h
  cases blank <;> cases fresh <;> rfl

theorem line_of_continue {l : SourceLine} {rest : List SourceLine} {n : Nat} {cur : Cursor}
    {s' : BlockReading} (henter : s.enterAll l.text = (n, cur))
    (h : s.continueLeaf? l rest n cur = some s') : s.line l rest = s' := by
  simp only [line, henter, h]

theorem line_of_start {l : SourceLine} {rest : List SourceLine} {n : Nat} {cur : Cursor}
    (henter : s.enterAll l.text = (n, cur)) (h : s.continueLeaf? l rest n cur = none) :
    s.line l rest = s.startLine l rest n cur := by
  simp only [line, henter, h]

/-- A line that begins with a backtick begins no container, -/
theorem startBlocks_backtick (l : SourceLine) (rest : List SourceLine) (fuel : Nat) (t : Text) :
    startBlocks l rest (fuel + 1) (.ofLine ('\x60' :: t)) s =
      s.startLeaf l rest (.ofLine ('\x60' :: t)) := by
  have hskip : (Cursor.ofLine ('\x60' :: t)).skipColumns 4 = (0, .ofLine ('\x60' :: t)) := rfl
  have hmarker : listMarker? 0 (.ofLine ('\x60' :: t)) = none := rfl
  have hquote : quoteMark? (.ofLine ('\x60' :: t)) = none := rfl
  have hfilled : Text.isBlankLine (Cursor.ofLine ('\x60' :: t)).rest = false := rfl
  rw [startBlocks, hskip]
  simp only [hmarker, hquote]
  rw [if_neg (by decide), startContent, hfilled]
  rfl

/-- and no leaf but the code block of its fence. -/
theorem startLeaf_backtick (l : SourceLine) (rest : List SourceLine) {t : Text} {n : Nat}
    (h : fence? ('\x60' :: t) = some ('\x60', n)) :
    s.startLeaf l rest (.ofLine ('\x60' :: t)) =
      { s.finishList with
        leaf := .fenced '\x60' n 0 (unescape (Text.trimEndWith isSpacing
          ((('\x60' :: t).drop n).dropWhile isBlank))) [] } := by
  have hskip : (Cursor.ofLine ('\x60' :: t)).skipColumns 4 = (0, .ofLine ('\x60' :: t)) := rfl
  have hhtml : htmlStart? ('\x60' :: t) = none := rfl
  have hrule : isRule ('\x60' :: t) = false := rfl
  have hheading : headingLevel? ('\x60' :: t) = none := rfl
  rw [startLeaf, hskip]
  simp only [Cursor.ofLine, hhtml, hrule, hheading, h]
  rfl

/-- A line of backticks and a tag opens a code block. -/
theorem line_opens (hframes : s.frames = [.document done]) (hleaf : s.leaf = .none) {tag : Text}
    (htag : FenceTag tag) (ended : Bool) (rest : List SourceLine) :
    s.line ⟨'\x60' :: '\x60' :: '\x60' :: tag, ended⟩ rest =
      { s with
        leaf := .fenced '\x60' 3 0 tag [], blankBefore := false, itemFresh := false } := by
  have hcontinue : s.continueLeaf? ⟨'\x60' :: '\x60' :: '\x60' :: tag, ended⟩ rest 1
      (.ofLine ('\x60' :: '\x60' :: '\x60' :: tag)) = none := by
    rw [continueLeaf?, hleaf]
  have hclose : s.closeLeaf = s := by
    rw [closeLeaf, hleaf]
    show { s with leaf := .none } = s
    rw [← hleaf]
  have hall : s.closeFrames (s.frames.length - 1) = s := by
    rw [hframes, List.length_singleton, Nat.sub_self, closeFrames]
  rw [line_of_start (enterAll_document hframes _) hcontinue, startLine, hclose, hall,
    startBlocks_backtick, startLeaf_backtick _ _ (fence?_backticks htag.backtick_notMem),
    finishList_document hframes]
  have hinfo : unescape (Text.trimEndWith isSpacing
      ((('\x60' :: '\x60' :: '\x60' :: tag).drop 3).dropWhile isBlank)) = tag := htag.info
  rw [hinfo]

/-- A line after a fence that is not indented closes the code block or is a line of code. -/
theorem continueLeaf?_fenced (hframes : s.frames = [.document done]) {mark : Char} {length : Nat}
    {info : Text} {code : List Text} (hleaf : s.leaf = .fenced mark length 0 info code)
    (l : SourceLine) (rest : List SourceLine) :
    s.continueLeaf? l rest 1 (.ofLine l.text) =
      let (k, closing) := (Cursor.ofLine l.text).skipColumns 4
      if k < 4 && closesFence mark length closing.rest then some s.closeLeaf
      else some { s with leaf := .fenced mark length 0 info (endLine l l.text :: code) } := by
  rw [continueLeaf?, hleaf, hframes]
  rfl

/-- A line without the mark of the fence goes into the code block as it is. -/
theorem line_inside (hframes : s.frames = [.document done]) {mark : Char} {length : Nat}
    {info : Text} {code : List Text} (hleaf : s.leaf = .fenced mark length 0 info code)
    (hlength : 0 < length) {l : Text} (hmark : mark ∉ l) (rest : List SourceLine) :
    s.line ⟨l, true⟩ rest =
      { s with leaf := .fenced mark length 0 info ((l ++ ['\n']) :: code) } := by
  have hopen : closesFence mark length ((Cursor.ofLine l).skipColumns 4).2.rest = false :=
    closesFence_of_notMem hlength fun hm => hmark ((Cursor.skipColumns_suffix ..).mem hm)
  refine line_of_continue (enterAll_document hframes l) ?_
  rw [continueLeaf?_fenced hframes hleaf]
  simp only [hopen, Bool.and_false]
  rfl

/-- The mark of the fence alone closes the code block. -/
theorem line_closes (hframes : s.frames = [.document done]) {tag : Text} {code : List Text}
    (hleaf : s.leaf = .fenced '\x60' 3 0 tag code) (ended : Bool) (rest : List SourceLine) :
    s.line ⟨"```".toList, ended⟩ rest =
      { s with
        frames := [.document (.code (.fenced tag) code.reverse :: done)], leaf := .none } := by
  have hskip : (Cursor.ofLine "```".toList).skipColumns 4 = (0, .ofLine "```".toList) := rfl
  have hcloses : closesFence '\x60' 3 (Cursor.ofLine "```".toList).rest = true := by decide
  have hblock : s.closeLeaf =
      { s with
        frames := [.document (.code (.fenced tag) code.reverse :: done)], leaf := .none } := by
    rw [closeLeaf, hleaf]
    show { s.addBlock (.code (.fenced tag) code.reverse) with leaf := .none } = _
    rw [addBlock, hframes]
    rfl
  refine (line_of_continue (enterAll_document hframes _) ?_).trans hblock
  rw [continueLeaf?_fenced hframes hleaf, hskip]
  simp only [hcloses]
  rfl

theorem lines_cons (htaken : s.taken = 0) (l : SourceLine) (rest : List SourceLine) :
    s.lines (l :: rest) = (s.line l rest).lines rest := by
  rw [lines, if_pos htaken]

/-- **Lines without the mark of the fence are the code**, one after the other. -/
theorem lines_inside (hframes : s.frames = [.document done]) (htaken : s.taken = 0) {mark : Char}
    {length : Nat} {info : Text} {code : List Text}
    (hleaf : s.leaf = .fenced mark length 0 info code) (hlength : 0 < length) {ls : List Text}
    (hmark : ∀ l ∈ ls, mark ∉ l) (rest : List SourceLine) :
    s.lines (ls.map (⟨·, true⟩) ++ rest) =
      { s with
        leaf := .fenced mark length 0 info
          ((ls.map (· ++ ['\n'])).reverse ++ code) }.lines rest := by
  induction ls generalizing s code with
  | nil =>
    rw [List.map_nil, List.map_nil, List.nil_append, List.reverse_nil, List.nil_append, ← hleaf]
  | cons l ls ih =>
    -- After the first line the code block is still open, with that line in it.
    rw [List.forall_mem_cons] at hmark
    rw [List.map_cons, List.cons_append, lines_cons htaken,
      line_inside hframes hleaf hlength hmark.1]
    refine (ih (s := { s with leaf := .fenced mark length 0 info ((l ++ ['\n']) :: code) })
      hframes htaken rfl hmark.2).trans ?_
    rw [List.map_cons, List.reverse_cons, List.append_assoc, List.singleton_append]

end BlockReading

/-! ## Documents -/

/-- The source of a document that is one code block between fences. -/
def fenced (tag : Text) (ls : List Text) : Text :=
  "```".toList ++ tag ++ '\n' :: (Text.unlines ls ++ '\n' :: "```".toList)

theorem sourceLines_fenced {tag : Text} (htag : FenceTag tag) {ls : List Text} (hne : ls ≠ [])
    (h : ∀ l ∈ ls, '\n' ∉ l) :
    Text.sourceLines (fenced tag ls) =
      ⟨"```".toList ++ tag, true⟩ :: (ls.map (⟨·, true⟩) ++ [⟨"```".toList, false⟩]) := by
  have hopen : '\n' ∉ "```".toList ++ tag := by
    rw [List.mem_append, not_or]
    refine ⟨by decide, fun hm => ?_⟩
    have := htag.unwhite _ hm
    exact absurd this (by decide)
  rw [fenced, Text.sourceLines_append_newline hopen, Text.sourceLines_unlines_append hne h,
    Text.sourceLines_of_notMem (by decide) (by decide)]

/-- **A fenced document is one code block**, whose lines are as written. -/
theorem readBlocks_fenced {tag : Text} (htag : FenceTag tag) {ls : List Text} (hne : ls ≠ [])
    (hnewline : ∀ l ∈ ls, '\n' ∉ l) (hmark : ∀ l ∈ ls, '\x60' ∉ l) :
    readBlocks (fenced tag ls) = ([.code (.fenced tag) (ls.map (· ++ ['\n']))], []) := by
  have hopens := BlockReading.line_opens (s := .initial) rfl rfl htag true
    (ls.map (⟨·, true⟩) ++ [⟨"```".toList, false⟩])
  have hlines : BlockReading.initial.lines (Text.sourceLines (fenced tag ls)) =
      { BlockReading.initial with
        frames := [.document [.code (.fenced tag) (ls.map (· ++ ['\n']))]] } := by
    rw [sourceLines_fenced htag hne hnewline, BlockReading.lines_cons rfl]
    refine (congrArg _ hopens).trans ?_
    rw [BlockReading.lines_inside rfl rfl rfl (by decide) hmark, List.append_nil,
      BlockReading.lines_cons rfl, BlockReading.line_closes rfl rfl, List.reverse_reverse]
    rfl
  rw [readBlocks, hlines]
  rfl

theorem read_fenced {tag : Text} (htag : FenceTag tag) {ls : List Text} (hne : ls ≠ [])
    (hnewline : ∀ l ∈ ls, '\n' ∉ l) (hmark : ∀ l ∈ ls, '\x60' ∉ l) :
    read (fenced tag ls) = [.code (.fenced tag) (ls.map (· ++ ['\n']))] := by
  rw [read, readBlocks_fenced htag hne hnewline hmark]
  rfl

end JiraMarkup.Markdown
