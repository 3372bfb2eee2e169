/-
  Repairs of wiki markup, line by line. Rendering escapes nothing, so that two
  things are put right afterwards: markers of ordered lists that got into code,
  and underscores that Jira would read as emphasis.

  Both passes follow the code blocks from the top of the text: a line that holds
  the closing word ends a block, any other line that holds the opening one begins
  a block.

  * `clearListMarks` drops the markers;
  * `escapeOutsideCode` escapes the underscores outside code;
  * `repair` is the first and then the second.
-/
import JiraMarkup.Text

namespace JiraMarkup.Wiki

/-- What a line does to the code blocks. -/
inductive CodeMark where
  | opens
  | closes
  deriving DecidableEq, Repr

/-- What a line does to the code blocks, if anything. -/
def codeMark? (line : Text) : Option CodeMark :=
  if Text.mentions "\x7bcode\x7d" line then some .closes
  else if Text.mentions "\x7bcode" line then some .opens
  else none

/-! ## Markers -/

/-- A line without any number sign that a space follows, and without that space. -/
def dropMarks : Text → Text
  | '#' :: ' ' :: t => dropMarks t
  | c :: t => c :: dropMarks t
  | [] => []

/-- A line without a number sign at its front. -/
def dropHash : Text → Text
  | '#' :: t => t
  | t => t

/-- The lines of a text without markers; `inCode` if a code block is open. -/
def clearLines (inCode : Bool) : List Text → List Text
  | [] => []
  | l :: ls =>
    match codeMark? l with
    | some mark => dropMarks l :: clearLines (mark == .opens) ls
    | none => (if inCode then dropHash l else l) :: clearLines inCode ls

/-- Drops the markers on the lines that open and close code blocks, and one number
    sign at the front of each line of code. -/
def clearListMarks (t : Text) : Text := Text.unlines (clearLines false (Text.lines t))

/-! ## Underscores -/

/-- A line with a backslash before each underscore of a pair. -/
def escapePairs : Text → Text
  | '_' :: '_' :: t => '\\' :: '_' :: '\\' :: '_' :: escapePairs t
  | c :: t => c :: escapePairs t
  | [] => []

/-- The lines of a text with pairs of underscores escaped outside code; `inCode` if
    a code block is open. A closing line that closes nothing is not code. -/
def escapeLines (inCode : Bool) : List Text → List Text
  | [] => []
  | l :: ls =>
    match codeMark? l, inCode with
    | some .opens, _ => l :: escapeLines true ls
    | some .closes, true => l :: escapeLines false ls
    | none, true => l :: escapeLines true ls
    | _, false => escapePairs l :: escapeLines false ls

/-- Escapes the pairs of underscores outside code blocks. -/
def escapeOutsideCode (t : Text) : Text := Text.unlines (escapeLines false (Text.lines t))

/-- Both repairs. -/
def repair (t : Text) : Text := escapeOutsideCode (clearListMarks t)

end JiraMarkup.Wiki
