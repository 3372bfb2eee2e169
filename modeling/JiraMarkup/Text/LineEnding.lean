/-
  Line endings: a text may end its lines with a line feed, a carriage return,
  or the two together.

  * `Text.normalize` writes each of them as one line feed, in a text that has a
    carriage return at all; `Normalized` tells whether the text is another one
    then;
  * `Text.normalizeLineEndings` is the text that comes of it.
-/
import JiraMarkup.Text

namespace JiraMarkup.Text

/-- Each carriage return that a line feed follows is dropped. -/
def joinPairs : Text → Text
  | '\r' :: '\n' :: cs => '\n' :: joinPairs cs
  | c :: cs => c :: joinPairs cs
  | [] => []

/-- A text in which lines end with line feeds only. -/
structure Normalized where
  /-- The text. -/
  text : Text
  /-- Whether it is the given text, which needed no change. -/
  kept : Bool

/-- Every line ending becomes one line feed: first the pairs, then each carriage
    return that is left. A text without any is kept as it is. -/
def normalize (t : Text) : Normalized :=
  if t.contains '\r' then ⟨(joinPairs t).map fun c => if c = '\r' then '\n' else c, false⟩
  else ⟨t, true⟩

/-- The text with one line feed for every line ending. -/
def normalizeLineEndings (t : Text) : Text := (normalize t).text

end JiraMarkup.Text
