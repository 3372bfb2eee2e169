/-
  The log of a conversion: what it tells, and that nothing depends on it.

  * `construct_of_message` and `code_of_message`: an entry can be told from its message, but for
    what in a construct is no text (`Construct.variant`);
  * `Highlighter.Handles` are the syntaxes of which no code makes a highlighter fail, so that
    there is nothing to warn of (`Highlighter.Handles.failure?_eq_none`);
  * `conversion_logged`: with logging on there is one entry for each call, or in HTML for each
    code block, in order; with logging off there is none; the output is the same. Warnings of
    code that could not be highlighted come in between, with logging on and off.
-/
import JiraMarkup.Conversion
import JiraMarkup.Proofs.Html.FoundCode
import JiraMarkup.Proofs.Text.Quoting
import JiraMarkup.Proofs.Wiki.CallLog
import JiraMarkup.Proofs.Wiki.TreeRendering
import Mathlib.Data.List.Basic

namespace JiraMarkup

open Markdown (Block Node)

/-! ## Messages -/

namespace Wiki

/-- What a construct has besides its texts: the level of a heading, and whether a list is
    ordered, a cell is in the head, or a box is ticked. -/
def Construct.variant : Construct → Nat
  | .heading level _ => level
  | .list _ ordered => ordered.toNat
  | .tableCell _ header => header.toNat
  | .checkbox checked => checked.toNat
  | _ => 0

/-- A construct consists of its kind, its texts and its variant. -/
theorem Construct.ext_parts {n n' : Construct} (hname : n.name = n'.name)
    (htexts : n.texts = n'.texts) (hvariant : n.variant = n'.variant) : n = n' := by
  have hopt : ∀ o o' : Option Text, o.toList = o'.toList → o = o' := by
    rintro (_ | t) (_ | t') h <;> simp_all
  cases n <;> cases n' <;> simp_all [Construct.name, Construct.texts, Construct.variant]
  case link.link => exact hopt _ _ htexts.2
  case codeBlock.codeBlock => exact hopt _ _ htexts.2
  case list.list _ ordered _ ordered' => cases ordered <;> cases ordered' <;> simp_all
  case tableCell.tableCell _ header _ header' => cases header <;> cases header' <;> simp_all
  case checkbox.checkbox checked checked' => cases checked <;> cases checked' <;> simp_all

/-- The name of a construct ends at the first colon. -/
theorem Construct.colon_notMem_name (n : Construct) : ':' ∉ n.name.toList := by
  cases n <;> simp only [Construct.name] <;> decide

end Wiki

open Wiki (Construct Call jira)

/-- What comes before the first colon. -/
theorem append_colon_inj {a a' b b' : Text} (ha : ':' ∉ a) (ha' : ':' ∉ a')
    (h : a ++ ':' :: b = a' ++ ':' :: b') : a = a' ∧ b = b' := by
  have htake : ∀ {u : Text} (v : Text), ':' ∉ u → (u ++ ':' :: v).takeWhile (· != ':') = u := by
    intro u v hu
    rw [List.takeWhile_append_of_pos, List.takeWhile_cons_of_neg (by simp), List.append_nil]
    intro c hc
    simpa using fun heq : c = ':' => hu (heq ▸ hc)
  have hfront : a = a' := by rw [← htake b ha, h, htake b' ha']
  rw [hfront, List.append_cancel_left_eq] at h
  exact ⟨hfront, (List.cons.inj h).2⟩

/-- **The message of a construct tells its kind and all its texts.** -/
theorem construct_of_message {n n' : Construct}
    (h : (LogEntry.construct n).message = (LogEntry.construct n').message)
    (hvariant : n.variant = n'.variant) : n = n' := by
  have hopen : ": [".toList = [':', ' ', '['] := by decide
  rw [message_construct, message_construct, hopen] at h
  simp only [List.append_assoc, List.cons_append, List.nil_append] at h
  obtain ⟨hname, hrest⟩ := append_colon_inj n.colon_notMem_name n'.colon_notMem_name h
  rw [List.cons.injEq, List.cons.injEq, List.append_cancel_right_eq] at hrest
  exact Construct.ext_parts (String.toList_inj.1 hname) (quoteAll_inj hrest.2.2) hvariant

/-- **The message of a code block tells its code and its tag.** -/
theorem code_of_message {b b' : Html.CodeFound}
    (h : (LogEntry.code b).message = (LogEntry.code b').message) : b = b' := by
  obtain ⟨code, tag⟩ := b
  obtain ⟨code', tag'⟩ := b'
  have hsome : "Some(".toList = ['S', 'o', 'm', 'e', '('] := by decide
  have hnone : "None".toList = ['N', 'o', 'n', 'e'] := by decide
  rw [message_code, message_code] at h
  simp only [List.append_assoc, List.append_cancel_left_eq] at h
  obtain ⟨rfl, htag⟩ := quote_append_inj h
  rw [List.append_cancel_left_eq] at htag
  rcases tag with _ | t <;> rcases tag' with _ | t'
  · rfl
  · simp [hsome, hnone] at htag
  · simp [hsome, hnone] at htag
  · simp only [Option.elim_some, List.append_cancel_left_eq] at htag
    obtain ⟨rfl, -⟩ := quote_append_inj htag
    rfl

/-! ## Highlighting -/

namespace Html.Highlighter

/-- The states that a highlighter comes to in code of a syntax. -/
inductive Reaches (h : Highlighter) (s : Syntax) : h.State → Prop where
  | start : Reaches h s (h.start s)
  | line {state state' : h.State} {l : Text} (hstate : Reaches h s state)
      (hline : h.line state l = .ok state') : Reaches h s state'

/-- **A highlighter handles a syntax** if no line makes it fail, whatever lines came before it. -/
def Handles (h : Highlighter) (s : Syntax) : Prop :=
  ∀ state, h.Reaches s state → ∀ l, ∃ state', h.line state l = .ok state'

variable {h : Highlighter} {s : Syntax}

theorem Handles.lines (hs : h.Handles s) {state : h.State} (hstate : h.Reaches s state)
    (ls : List Text) : ∃ state', ls.foldlM h.line state = .ok state' := by
  induction ls generalizing state with
  | nil => exact ⟨state, rfl⟩
  | cons l ls ih =>
    obtain ⟨next, hnext⟩ := hs state hstate l
    rw [List.foldlM_cons, hnext]
    exact ih (.line hstate hnext)

/-- There is nothing to warn of in code of such a syntax. -/
theorem Handles.failure?_eq_none {tag : Option Text} (hs : h.Handles (resolve tag).1)
    (code : Text) : h.failure? code tag = none := by
  obtain ⟨state, hstate⟩ := hs.lines .start (Text.wholeLines code)
  have hcode : h.highlight code (resolve tag).1 = .ok (h.finish state) := by
    rw [highlight, hstate]
    rfl
  simp only [failure?, hcode]

/-- Plain text is handled by the highlighter that is made for it. -/
theorem handles_plainText : plainHighlighter.Handles plainText := by
  have hbegun : ∀ state, plainHighlighter.Reaches plainText state → ∃ html, state = .ok html := by
    intro state hstate
    induction hstate with
    | start => exact ⟨none, rfl⟩
    | line _ hline ih =>
      obtain ⟨html, rfl⟩ := ih
      exact ⟨_, (Except.ok.inj hline).symm⟩
  intro state hstate l
  obtain ⟨html, rfl⟩ := hbegun state hstate
  exact ⟨_, rfl⟩

end Html.Highlighter

/-! ## Conversions -/

/-- What a text is rendered as does not depend on the logging. -/
theorem renderWiki_unlogged (t : Text) (settings : Settings) (verbose : Bool) :
    (renderWiki t { settings with verbose }).output = (renderWiki t settings).output ∧
      (renderWiki t { settings with verbose }).calls = (renderWiki t settings).calls ∧
      (renderWiki t { settings with verbose }).log =
        if verbose then (renderWiki t settings).calls.map Call.construct else [] := by
  let es := Markdown.readEvents t
  obtain ⟨houtput, hcalls, hlog⟩ := Wiki.render_unlogged (jira settings) verbose es
  obtain ⟨houtput', hcalls', -⟩ := Wiki.render_unlogged (jira settings) settings.verbose es
  have hcalls := hcalls.trans hcalls'.symm
  rw [hcalls] at hlog
  exact ⟨houtput.trans houtput'.symm, hcalls, hlog⟩

/-- A text that is rendered as anything is rendered by calls. -/
theorem calls_renderWiki_ne_nil {t : Text} {settings : Settings}
    (h : (renderWiki t settings).output ≠ []) : (renderWiki t settings).calls ≠ [] := by
  have hadds := Wiki.Node.adds_eventsAll (jira settings) settings.verbose
    (Block.nodesAll (Markdown.read t)) Wiki.takesText_initial rfl
  have hrender := Wiki.render_of_adds hadds
  rw [Block.eventsAll_nodesAll] at hrender
  have hwiki : renderWiki t settings = _ := hrender
  rw [hwiki] at h ⊢
  intro hnil
  exact h (Block.heard_nodesAll (jira settings) (Markdown.read t) (List.map_eq_nil_iff.1 hnil))

/-- Only a text with calls is converted to anything, for the repairs make nothing of nothing. -/
theorem calls_ne_nil_of_output_convert {t : Text} {settings : Settings}
    (h : (convert t settings).output ≠ []) :
    (renderWiki (Text.normalizeLineEndings t) settings).calls ≠ [] := by
  refine calls_renderWiki_ne_nil fun hnil => h ?_
  rw [output_convert, hnil]
  rfl

/-- With logging on the log has the construct of each call. -/
theorem log_convert_logged (t : Text) (settings : Settings) :
    (convert t settings.logged).log =
      (renderWiki (Text.normalizeLineEndings t) settings).calls.map
        (fun c => .construct c.construct) := by
  obtain ⟨-, -, hlog⟩ := renderWiki_unlogged (Text.normalizeLineEndings t) settings true
  have hlogged : (renderWiki (Text.normalizeLineEndings t) settings.logged).log = _ := hlog
  rw [log_convert, hlogged, if_pos rfl, List.map_map]
  rfl

/-- The log of a text as HTML has what belongs to each of its code blocks. -/
theorem log_toHtml_codeBlocks (h : Html.Highlighter) (t : Text) (settings : Settings) :
    (toHtml h t settings).log =
      (Node.codeBlocksAll (Block.nodesAll (Markdown.read (Text.normalizeLineEndings t)))).flatMap
        (codeEntries h settings.verbose) := by
  have hevents : Markdown.readEvents (Text.normalizeLineEndings t) =
      Node.eventsAll (Block.nodesAll (Markdown.read (Text.normalizeLineEndings t))) :=
    (Block.eventsAll_nodesAll _).symm
  rw [log_toHtml, hevents, Html.found_eventsAll]

/-- Of code that a highlighter handles there is the code block, if it is asked for. -/
theorem codeEntries_of_handles {h : Html.Highlighter} {b : Html.CodeFound}
    (hb : h.Handles (Html.resolve b.tag).1) (verbose : Bool) :
    codeEntries h verbose b = if verbose then [.code b] else [] := by
  rw [codeEntries, hb.failure?_eq_none]
  exact List.append_nil _

/-- **Logging is faithful and never interferes.** With and without it a text has the same
    output, as wiki markup and as HTML. Without it nothing is logged. With it the log has, in
    their order, the construct of each call, and in HTML each code block of the document; it is
    not empty unless the output is. That is so if the code in the document is of syntaxes that
    the highlighter handles; for any other code block it logs a warning, after the entry of the
    block, with logging and without it. From the message of an entry one can tell the kind of
    the construct and all its texts, or the code of the block and its tag. -/
theorem conversion_logged (h : Html.Highlighter) (t : Text) (settings : Settings) :
    let quiet : Settings := { settings with verbose := false }
    let source := Text.normalizeLineEndings t
    let blocks := Node.codeBlocksAll (Block.nodesAll (Markdown.read source))
    let warnings (b : Html.CodeFound) : List LogEntry :=
      ((h.failure? b.code b.tag).map .unhighlighted).toList
    (convert t settings.logged).output = (convert t quiet).output ∧
      (toHtml h t settings.logged).output = (toHtml h t quiet).output ∧
      (convert t quiet).log = [] ∧
      (convert t settings.logged).log =
        (renderWiki source settings).calls.map (fun c => .construct c.construct) ∧
      ((∀ b ∈ blocks, h.Handles (Html.resolve b.tag).1) →
        (toHtml h t quiet).log = [] ∧ (toHtml h t settings.logged).log = blocks.map .code) ∧
      (toHtml h t quiet).log = blocks.flatMap warnings ∧
      (toHtml h t settings.logged).log = blocks.flatMap (fun b => .code b :: warnings b) ∧
      ((convert t settings.logged).output ≠ [] → (convert t settings.logged).log ≠ []) ∧
      (∀ n n' : Construct, (LogEntry.construct n).message = (LogEntry.construct n').message →
        n.variant = n'.variant → n = n') ∧
      ∀ b b' : Html.CodeFound, (LogEntry.code b).message = (LogEntry.code b').message →
        b = b' := by
  intro quiet source blocks warnings
  obtain ⟨hquiet, -, hquietLog⟩ := renderWiki_unlogged source settings false
  obtain ⟨hloud, hcalls, -⟩ := renderWiki_unlogged source settings true
  have hlog := log_convert_logged t settings
  have hhtml := log_toHtml_codeBlocks h t
  refine ⟨?_, rfl, ?_, hlog, fun hhandles => ⟨?_, ?_⟩, hhtml quiet, hhtml settings.logged, ?_,
    fun _ _ => construct_of_message, fun _ _ => code_of_message⟩
  · rw [output_convert, output_convert]
    exact congrArg Wiki.repair (hloud.trans hquiet.symm)
  · have hnil : (renderWiki source quiet).log = [] := hquietLog
    rw [log_convert, hnil, List.map_nil]
  · rw [hhtml quiet]
    exact List.flatMap_eq_nil_iff.2 fun b hb => codeEntries_of_handles (hhandles b hb) false
  · rw [hhtml settings.logged, List.map_eq_flatMap]
    exact List.flatMap_congr fun b hb => codeEntries_of_handles (hhandles b hb) true
  · intro houtput
    have hne : (renderWiki source settings.logged).calls ≠ [] :=
      calls_ne_nil_of_output_convert houtput
    rw [hlog, ne_eq, List.map_eq_nil_iff]
    exact hcalls ▸ hne

/-- Two blocks of plain text, and one of a syntax that the highlighter has no rules of. -/
theorem conversion_logged_plain :
    let plain : Text := "> ```txt x\n> a\n> ```\n\n    b\n"
    let other : Text := "```rust\nc\n```\n"
    (toHtml Html.plainHighlighter plain .default).log = [] ∧
      (toHtml Html.plainHighlighter plain Settings.default.logged).log =
        [.code ⟨"a\n", some "txt".toList⟩, .code ⟨"b\n", none⟩] ∧
      (toHtml Html.plainHighlighter other .default).log =
        [.unhighlighted ⟨"rust", "no rules for Rust"⟩] := by
  intro plain other
  have hplain : Node.codeBlocksAll (Block.nodesAll (Markdown.read (Text.normalizeLineEndings
      "> ```txt x\n> a\n> ```\n\n    b\n"))) =
        [⟨"a\n".toList, some "txt".toList⟩, ⟨"b\n".toList, none⟩] := by decide +kernel
  have hother : Node.codeBlocksAll (Block.nodesAll (Markdown.read (Text.normalizeLineEndings
      "```rust\nc\n```\n"))) = [⟨"c\n".toList, some "rust".toList⟩] := by decide +kernel
  have hresolve : ∀ b ∈ [(⟨"a\n".toList, some "txt".toList⟩ : Html.CodeFound),
      ⟨"b\n".toList, none⟩], (Html.resolve b.tag).1 = Html.plainText := by decide +kernel
  obtain ⟨-, -, -, -, hhandled, -⟩ :=
    conversion_logged Html.plainHighlighter plain Settings.default
  obtain ⟨-, -, -, -, -, hwarned, -⟩ :=
    conversion_logged Html.plainHighlighter other Settings.default
  obtain ⟨hquiet, hlogged⟩ := hhandled fun b hb => by
    rw [hplain] at hb
    rw [hresolve b hb]
    exact Html.Highlighter.handles_plainText
  refine ⟨hquiet, hlogged.trans ?_, Eq.trans hwarned ?_⟩
  · rw [hplain]
    rfl
  · rw [hother]
    decide +kernel

end JiraMarkup
