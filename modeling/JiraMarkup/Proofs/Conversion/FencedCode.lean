/-
  From a fenced code block to the code block of the wiki markup.

  * `repair_codeBlock`: the repairs take a number sign off each line of a code block that
    stands alone, and nothing else;
  * `CodeLine` are the lines that stand for themselves between fences;
  * `convert_fenced`: what comes of a document that is one such block.
-/
import JiraMarkup.Conversion
import JiraMarkup.Proofs.Markdown.FencedReading
import JiraMarkup.Proofs.Wiki.CodeBlockRepair
import JiraMarkup.Proofs.Wiki.TreeRendering
import Mathlib.Data.List.TakeWhile

namespace JiraMarkup

open Markdown (Block FenceTag fenced)

namespace Wiki

/-! ## Tags and code -/

theorem dropNewline_append (t : Text) : dropNewline (t ++ ['\n']) = t := by
  rw [dropNewline, List.getLast?_concat, if_pos rfl, List.dropLast_concat]

/-- An empty tag and one that is not written have the same language. -/
theorem ofTag_firstWord? {tag : Text} (h : ∀ c ∈ tag, isWhite c = false) :
    Language.ofTag tag.firstWord? = Language.ofTag (some tag) := by
  have htake : tag.takeWhile (fun c => !isWhite c) = tag :=
    List.takeWhile_eq_self_iff.2 fun c hc => by rw [h c hc]; rfl
  rw [Text.firstWord?, Text.dropWhile_of_forall h, htake]
  cases tag with
  | nil => decide
  | cons c t => rfl

/-! ## Repairs -/

/-- A code block that stands alone is repaired to the code block of its cleared code. -/
theorem repair_codeBlock {settings : Settings} (htheme : HeaderText settings.theme)
    (hborder : HeaderText settings.borderStyle) {code : Text}
    (hcode : ∀ l ∈ Text.lines code, ¬ openingWord <:+: l) (lang : Option Text) :
    repair (codeBlock settings code lang) = codeBlock settings (clearedCode code) lang := by
  have hheader := headerText_codeHeader htheme hborder code lang
  have hsame : codeHeader settings (clearedCode code) lang = codeHeader settings code lang :=
    codeHeader_congr (by rw [lines_clearedCode, List.length_map])
  have hlines : ∀ {code' : Text}, codeHeader settings code' lang = codeHeader settings code lang →
      Text.lines (codeBlock settings code' lang) = codeHeader settings code lang ::
        (Text.lines code' ++ [closingWord, [], []]) := by
    intro code' h
    have := lines_codeBlock_append settings code' lang (by rw [h]; exact hheader.newline_notMem) []
    rwa [List.append_nil, h] at this
  rw [repair_eq, hlines rfl, repairLines_codeBlock hheader (openingWord_infix_codeHeader ..) hcode,
    repairLines_singleton_nil, ← lines_clearedCode, ← hlines hsame, Text.unlines_lines]

end Wiki

/-! ## Conversions -/

open Wiki

/-- A line that stands for itself between fences, and that does not open another code block. -/
structure CodeLine (l : Text) : Prop where
  newline_notMem : '\n' ∉ l
  return_notMem : '\r' ∉ l
  backtick_notMem : '\x60' ∉ l
  not_opening : ¬ openingWord <:+: l

theorem return_notMem_fenced {tag : Text} (htag : FenceTag tag) {ls : List Text}
    (h : ∀ l ∈ ls, CodeLine l) : '\r' ∉ fenced tag ls := by
  have hreturn : isWhite '\r' = true := by decide
  have htag' : '\r' ∉ tag := fun hm => by
    rw [htag.unwhite _ hm] at hreturn
    cases hreturn
  have hlines : '\r' ∉ Text.unlines ls := fun hm => by
    rcases Text.mem_unlines hm with hm | ⟨l, hl, hm⟩
    · exact absurd hm (by decide)
    · exact (h l hl).return_notMem hm
  simp [fenced, htag', hlines]

/-- What a fenced document is rendered as. -/
theorem renderWiki_fenced {tag : Text} (htag : FenceTag tag) {ls : List Text} (hne : ls ≠ [])
    (hls : ∀ l ∈ ls, CodeLine l) (settings : Settings) :
    (renderWiki (fenced tag ls) settings).output =
      codeBlock settings (Text.unlines ls) tag.firstWord? := by
  have hread := Markdown.read_fenced htag hne (fun l hl => (hls l hl).newline_notMem)
    fun l hl => (hls l hl).backtick_notMem
  rw [renderWiki, Markdown.readEvents, render_events, hread, Block.outputAll_cons,
    Block.output_code, Block.outputAll_nil, List.append_nil, Text.flatten_map_newline hne,
    dropNewline_append]
  rfl

/-- **A fenced code block becomes a code block of the wiki markup**: with the language of its
    tag, collapsed if it has more lines than the settings allow, and with its lines as they are
    but for one number sign at the front of each. -/
theorem convert_fenced {tag : Text} (htag : FenceTag tag) {ls : List Text} (hne : ls ≠ [])
    (hls : ∀ l ∈ ls, CodeLine l) {settings : Settings} (htheme : HeaderText settings.theme)
    (hborder : HeaderText settings.borderStyle) :
    (convert (fenced tag ls) settings).output =
        "\x7bcode:language=".toList ++ Language.ofTag (some tag) ++ "|borderStyle=".toList ++
          settings.borderStyle ++ "|theme=".toList ++ settings.theme ++ "|linenumbers=".toList ++
          flag settings.lineNumbers ++ "|collapse=".toList ++
          flag (settings.collapseThreshold < ls.length) ++ "\x7d\n".toList ++
          Text.unlines (ls.map dropHash) ++ "\n\x7bcode\x7d\n\n".toList ∧
      (tag = [] ∨ Language.isKnown tag = false → Language.ofTag (some tag) = []) := by
  have hlines : Text.lines (Text.unlines ls) = ls :=
    Text.lines_unlines hne fun l hl => (hls l hl).newline_notMem
  have hcode : ∀ l ∈ Text.lines (Text.unlines ls), ¬ openingWord <:+: l := by
    rw [hlines]
    exact fun l hl => (hls l hl).not_opening
  have hout : (convert (fenced tag ls) settings).output =
      codeBlock settings (clearedCode (Text.unlines ls)) tag.firstWord? := by
    rw [output_convert, Text.normalizeLineEndings_of_notMem (return_notMem_fenced htag hls),
      renderWiki_fenced htag hne hls]
    exact repair_codeBlock htheme hborder hcode _
  have hcleared : clearedCode (Text.unlines ls) = Text.unlines (ls.map dropHash) := by
    rw [clearedCode, hlines]
  have hlength : (Text.lines (Text.unlines (ls.map dropHash))).length = ls.length := by
    rw [← hcleared, lines_clearedCode, hlines, List.length_map]
  have hend : "\x7d\n".toList = "\x7d".toList ++ "\n".toList := by decide
  constructor
  · rw [hout, hcleared, hend]
    unfold codeBlock codeHeader
    simp only [hlength, ofTag_firstWord? htag.unwhite, List.append_assoc]
  · rintro (rfl | hknown)
    · decide
    · rw [Language.isKnown, Option.isSome_eq_false_iff, Option.isNone_iff_eq_none] at hknown
      rw [Language.ofTag, Option.bind_some, hknown, Option.getD_none]

/-- A known tag and two lines, of which one begins with number signs, above the limit. -/
theorem convert_fenced_sql :
    let settings := Settings.default.collapseAfter 1
    FenceTag "sql" ∧ ["## a__b".toList, []] ≠ [] ∧ (∀ l ∈ ["## a__b".toList, []], CodeLine l) ∧
      HeaderText settings.theme ∧ HeaderText settings.borderStyle ∧
      (convert (fenced "sql" ["## a__b".toList, []]) settings).output =
        ("\x7bcode:language=sql|borderStyle=solid|theme=RDark|linenumbers=true|" ++
          "collapse=true\x7d\n# a__b\n\n\x7bcode\x7d\n\n").toList := by
  intro settings
  have hunwhite : "sql".toList.all (fun c => !isWhite c) = true := by decide
  have htag : FenceTag "sql" := by
    constructor
    · intro c hc
      simpa using List.all_eq_true.1 hunwhite c hc
    all_goals decide
  have hne : ["## a__b".toList, []] ≠ [] := by simp
  have hls : ∀ l ∈ ["## a__b".toList, []], CodeLine l := by
    intro l hl
    rcases List.mem_pair.1 hl with rfl | rfl <;> constructor <;> decide
  have htheme : HeaderText settings.theme := by decide
  have hborder : HeaderText settings.borderStyle := by decide
  refine ⟨htag, hne, hls, htheme, hborder, ?_⟩
  rw [(convert_fenced htag hne hls htheme hborder).1]
  decide +kernel

end JiraMarkup
