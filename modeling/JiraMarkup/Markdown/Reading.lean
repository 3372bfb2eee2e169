/-
  Reading Markdown: the blocks of a text first, for a link may be defined behind
  its use, and then the running text in them.

  * `read` is the document that a text stands for;
  * `readEvents` is its stream of events.
-/
import JiraMarkup.Markdown.BlockReading
import JiraMarkup.Markdown.Event
import JiraMarkup.Markdown.RunningText

namespace JiraMarkup.Markdown

/-- The running text of a source. -/
def Source.inlines (defs : List Definition) (s : Source) : List Inline :=
  (s.task.map Inline.taskMarker).toList ++ readInlines defs s.text

/-- The document that a text stands for. -/
def read (t : Text) : Document :=
  let (blocks, defs) := readBlocks t
  Block.mapAll (Source.inlines defs) blocks

/-- The events of the document that a text stands for. -/
def readEvents (t : Text) : List Event := events (read t)

end JiraMarkup.Markdown
