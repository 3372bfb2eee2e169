/-
  The conversions: Markdown to the wiki markup of Jira, and to HTML for a preview.

  * `convert` and `toHtml` give the output together with the `LogEntry`s. These tell
    what was written, if the settings ask for it, and warn of code that could not
    be highlighted, whether or not they do;
  * `LogEntry.level` and `LogEntry.message` are the level and the text of an entry.
-/
import JiraMarkup.Html.CodeBlock
import JiraMarkup.Html.Highlighter
import JiraMarkup.Html.Writer
import JiraMarkup.Markdown.Reading
import JiraMarkup.Text.LineEnding
import JiraMarkup.Text.Quoted
import JiraMarkup.Wiki.Jira
import JiraMarkup.Wiki.Rendering
import JiraMarkup.Wiki.Repair

namespace JiraMarkup

/-! ## The log -/

/-- An entry of the log. -/
inductive LogEntry where
  /-- A construct was written. -/
  | construct (c : Wiki.Construct)
  /-- A code block was replaced by its HTML. -/
  | code (block : Html.CodeFound)
  /-- The code of a block could not be highlighted. -/
  | unhighlighted (failure : Html.Unhighlighted)
  deriving DecidableEq, Repr

/-- The level of an entry. -/
def LogEntry.level : LogEntry → Text
  | .construct _ | .code _ => "DEBUG"
  | .unhighlighted _ => "WARN"

/-- The text of an entry. -/
def LogEntry.message : LogEntry → Text
  | .construct c => c.name.toList ++ ": [" ++ quoteAll c.texts ++ "]"
  | .code b =>
    "code: " ++ quote b.code ++ " " ++
      (match b.tag with
        | some t => "Some(" ++ quote t ++ ")"
        | none => "None".toList)
  | .unhighlighted u => "highlighting " ++ u.label ++ " failed: " ++ u.cause

theorem message_construct (c : Wiki.Construct) :
    (LogEntry.construct c).message =
      c.name.toList ++ ": [".toList ++ quoteAll c.texts ++ "]".toList := rfl

theorem message_code (code : Text) (tag : Option Text) :
    (LogEntry.code ⟨code, tag⟩).message =
      "code: ".toList ++ quote code ++ " ".toList ++
        tag.elim "None".toList fun t => "Some(".toList ++ quote t ++ ")".toList := by
  cases tag <;> rfl

/-! ## Conversions -/

/-- The output of a conversion and what it logged. -/
structure Conversion where
  /-- The output. -/
  output : Text
  /-- The entries of the log, in order. -/
  log : List LogEntry

/-- A Markdown text as wiki markup that is not repaired yet, with the constructs written
    on the way. -/
def renderWiki (t : Text) (settings : Settings) : Wiki.Rendered :=
  Wiki.render (Wiki.jira settings) settings.verbose (Markdown.readEvents t)

/-- A Markdown text as wiki markup. -/
def convert (t : Text) (settings : Settings) : Conversion :=
  let r := renderWiki (Text.normalizeLineEndings t) settings
  ⟨Wiki.repair r.output, r.log.map .construct⟩

theorem output_convert (t : Text) (settings : Settings) :
    (convert t settings).output =
      Wiki.repair (renderWiki (Text.normalizeLineEndings t) settings).output := by
  simp only [convert]

theorem log_convert (t : Text) (settings : Settings) :
    (convert t settings).log =
      (renderWiki (Text.normalizeLineEndings t) settings).log.map .construct := by
  simp only [convert]

/-- What the log has of a code block that becomes HTML. -/
def codeEntries (h : Html.Highlighter) (verbose : Bool) (b : Html.CodeFound) : List LogEntry :=
  (if verbose then [.code b] else []) ++ ((h.failure? b.code b.tag).map .unhighlighted).toList

/-- A Markdown text as HTML, with code as `h` writes it. Of the settings only the logging
    applies. -/
def toHtml (h : Html.Highlighter) (t : Text) (settings : Settings) : Conversion :=
  let es := Markdown.readEvents (Text.normalizeLineEndings t)
  let (es, found) := Html.replaceCode h.codeBlock es
  ⟨Html.write es, found.flatMap (codeEntries h settings.verbose)⟩

theorem log_toHtml (h : Html.Highlighter) (t : Text) (settings : Settings) :
    (toHtml h t settings).log =
      (Html.replaceCode h.codeBlock
        (Markdown.readEvents (Text.normalizeLineEndings t))).2.flatMap
        (codeEntries h settings.verbose) := rfl

end JiraMarkup
