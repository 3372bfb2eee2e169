/-
  Writing a stream of events as HTML.

  * `Writer` is the state: the output, and what the next event has to know about
    the events before it;
  * `Writer.step` writes one event, `write` a whole stream.
-/
import JiraMarkup.Html.Escape
import JiraMarkup.Markdown.Event

namespace JiraMarkup.Html

open Markdown (Event Tag)

/-- The state between two events. -/
structure Writer where
  /-- The pieces of the output, the last first. -/
  pieces : List Text
  /-- Whether the output is at the beginning of a line. -/
  atLineStart : Bool
  /-- The alignments of the columns of the last table. -/
  alignments : List Markdown.Alignment
  /-- Whether the head of a table is open. -/
  inTableHead : Bool
  /-- The column of the next cell. -/
  column : Nat
  /-- Within an image: its title, and the number of containers open in its
      description. -/
  image : Option (Text × Nat)

namespace Writer

/-- The state before the first event. -/
def initial : Writer := ⟨[], true, [], false, 0, none⟩

/-- Writes text. -/
def put (t : Text) (w : Writer) : Writer :=
  match t.getLast? with
  | some c => { w with pieces := t :: w.pieces, atLineStart := c == '\n' }
  | none => w

/-- Writes text on a fresh line. -/
def putBlock (t : Text) (w : Writer) : Writer :=
  w.put (if w.atLineStart then t else '\n' :: t)

/-- The attribute for the alignment of a cell. -/
def alignment : Option Markdown.Alignment → Text
  | some .left => " style=\"text-align: left\""
  | some .center => " style=\"text-align: center\""
  | some .right => " style=\"text-align: right\""
  | _ => []

/-- The attribute for a title, if there is one, up to its closing quote. -/
def titleOf (title : Text) : Text :=
  if title.isEmpty then [] else "\" title=\"" ++ escapeQuoted title

/-- The name of a heading of the given level. -/
def headingName (level : Nat) : Text := 'h' :: Text.ofNat level

/-- Writes the beginning of a container. -/
def enter (w : Writer) : Tag → Writer
  | .paragraph => w.putBlock "<p>"
  | .heading level => w.putBlock ('<' :: headingName level ++ ['>'])
  | .quote => w.putBlock "<blockquote>\n"
  | .list none => w.putBlock "<ul>\n"
  | .list (some n) =>
    w.putBlock (if n = 1 then "<ol>\n".toList else "<ol start=\"" ++ Text.ofNat n ++ "\">\n")
  | .item => w.putBlock "<li>"
  | .table alignments => { w with alignments := alignments }.put "<table>"
  | .tableHead => { w with inTableHead := true, column := 0 }.put "<thead><tr>"
  | .tableRow => { w with column := 0 }.put "<tr>"
  | .tableCell =>
    w.put ((if w.inTableHead then "<th".toList else "<td".toList) ++
      alignment (w.alignments[w.column]?) ++ ">")
  | .emphasis => w.put "<em>"
  | .strong => w.put "<strong>"
  | .strikethrough => w.put "<del>"
  | .link kind target title =>
    w.put ("<a href=\"" ++ (if kind = .email then "mailto:".toList else []) ++
      escapeHref target ++ titleOf title ++ "\">")
  | .image target title =>
    { w with image := some (title, 0) }.put ("<img src=\"" ++ escapeHref target ++ "\" alt=\"")
  | .codeBlock _ => w.putBlock "<pre><code>"
  | .htmlBlock | .plain => w

/-- Writes the end of a container. -/
def leave (w : Writer) : Tag → Writer
  | .paragraph => w.put "</p>\n"
  | .heading level => w.put ("</" ++ headingName level ++ ">\n")
  | .quote => w.put "</blockquote>\n"
  | .list none => w.put "</ul>\n"
  | .list (some _) => w.put "</ol>\n"
  | .item => w.put "</li>\n"
  | .table _ => w.put "</tbody></table>\n"
  | .tableHead => { w with inTableHead := false }.put "</tr></thead><tbody>\n"
  | .tableRow => w.put "</tr>\n"
  | .tableCell =>
    { w with column := w.column + 1 }.put (if w.inTableHead then "</th>".toList else "</td>".toList)
  | .emphasis => w.put "</em>"
  | .strong => w.put "</strong>"
  | .strikethrough => w.put "</del>"
  | .link .. => w.put "</a>"
  | .codeBlock _ => w.put "</code></pre>\n"
  | .image .. | .htmlBlock | .plain => w

/-- Writes one event of the description of an image, which is plain text: `title`
    is the title of the image, and `depth` containers are open. -/
def describe (w : Writer) (title : Text) (depth : Nat) : Event → Writer
  | .enter _ => { w with image := some (title, depth + 1) }
  | .leave _ =>
    match depth with
    | 0 => { w with image := none }.put (titleOf title ++ "\" />")
    | d + 1 => { w with image := some (title, d) }
  | .text t | .code t | .inlineHtml t | .verbatim t => w.put (escapeQuoted t)
  | .softBreak | .hardBreak | .rule => w.put " "
  | .taskMarker checked => w.put (if checked then "[x]".toList else "[ ]".toList)
  | .html _ => w

/-- Writes one event. -/
def step (w : Writer) (e : Event) : Writer :=
  match w.image with
  | some (title, depth) => w.describe title depth e
  | none =>
    match e with
    | .enter tag => w.enter tag
    | .leave tag => w.leave tag
    | .text t => w.put (escapeText t)
    | .code t => w.put ("<code>" ++ escapeText t ++ "</code>")
    | .html t | .inlineHtml t => w.put t
    | .softBreak => w.put "\n"
    | .hardBreak => w.put "<br />\n"
    | .rule => w.putBlock "<hr />\n"
    | .taskMarker checked =>
      w.put (if checked then "<input disabled=\"\" type=\"checkbox\" checked=\"\"/>\n".toList
        else "<input disabled=\"\" type=\"checkbox\"/>\n".toList)
    | .verbatim t => w.put (escapeText t)

/-- The whole output. -/
def output (w : Writer) : Text := w.pieces.reverse.flatten

end Writer

/-- The HTML of a stream of events. -/
def write (es : List Event) : Text := (es.foldl Writer.step .initial).output

end JiraMarkup.Html
