/-
  Highlighting: the code of a block as HTML.

  * `Highlighter` is what writes code of a syntax, one line after the other, and
    may fail at any line; `plainHighlighter` writes plain text only;
  * `Highlighter.codeBlock` is the HTML of a code block. Code that cannot be
    highlighted is escaped, and `Highlighter.failure?` says what went wrong.
-/
import JiraMarkup.Html.Escape
import JiraMarkup.Html.Syntax

namespace JiraMarkup.Html

/-- What writes code as HTML, one line after the other. -/
structure Highlighter where
  /-- How far the writing has come. -/
  State : Type
  /-- Begins with code of a syntax. -/
  start : Syntax → State
  /-- Goes on with a line, which has its newline with it, or says why it cannot. -/
  line : State → Text → Except Text State
  /-- What has been written, at the end of the code. -/
  finish : State → Text

/-- Code that could not be highlighted. -/
structure Unhighlighted where
  /-- The label of its block. -/
  label : Text
  /-- What the highlighter said. -/
  cause : Text
  deriving DecidableEq, Repr

namespace Highlighter

/-- The HTML of code. -/
def highlight (h : Highlighter) (code : Text) (s : Syntax) : Except Text Text :=
  ((Text.wholeLines code).foldlM h.line (h.start s)).map h.finish

/-- The HTML of a code block. Code that cannot be highlighted is only escaped. -/
def codeBlock (h : Highlighter) (code : Text) (tag : Option Text) : Text :=
  let (s, label) := resolve tag
  let body := match h.highlight code s with
    | .ok body => body
    | .error _ => escapeText code
  "<pre><code class=\"hljs language-" ++ escapeLabel label ++ "\">" ++ body ++ "</code></pre>\n"

/-- Why the code of a block is only escaped, if it is. -/
def failure? (h : Highlighter) (code : Text) (tag : Option Text) : Option Unhighlighted :=
  let (s, label) := resolve tag
  match h.highlight code s with
  | .ok _ => none
  | .error cause => some ⟨label, cause⟩

end Highlighter

/-! ## Plain text -/

/-- The tag that opens the span around plain text. -/
def spanStart : Text := "<span class=\"text plain\">"

/-- A highlighter that has the rules of plain text and of no other syntax. Its state is what it
    has written, if it has begun, or else what is wrong. -/
def plainHighlighter : Highlighter where
  State := Except Text (Option Text)
  start s := if s = plainText then .ok none else .error ("no rules for " ++ s.name)
  line state l := state.map fun html => .ok (some (html.getD spanStart ++ escapeQuoted l))
  finish
    | .ok (some html) => html ++ "</span>"
    | _ => []

end JiraMarkup.Html
