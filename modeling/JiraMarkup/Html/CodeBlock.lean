/-
  Code blocks in a stream of events.

  * `CodeFound` is a code block that has been found in one;
  * `replaceCode` replaces the events of each code block of a stream by one
    event with its HTML, and lists the blocks replaced.
-/
import JiraMarkup.Markdown.Event

namespace JiraMarkup.Html

open Markdown (Event CodeKind)

/-- A code block found in a stream. -/
structure CodeFound where
  /-- Its code. -/
  code : Text
  /-- Its tag. -/
  tag : Option Text
  deriving DecidableEq, Repr

/-- The event that stands for a code block, which `block` writes. -/
def CodeFound.event (block : Text → Option Text → Text) (b : CodeFound) : Event :=
  .html (block b.code b.tag)

/-- A code block that has been entered and not left. -/
structure OpenCode where
  /-- How it was written. -/
  kind : CodeKind
  /-- The pieces of its code so far, the last first. -/
  pieces : List Text

/-- The code block once it is complete. -/
def OpenCode.found (o : OpenCode) : CodeFound := ⟨o.pieces.reverse.flatten, o.kind.tag?⟩

/-- `replaceCode`, within the code block `inside` if there is one. Of what is in a
    code block only text counts; a stream may end within one. -/
def replaceCodeFrom (block : Text → Option Text → Text) :
    (inside : Option OpenCode) → List Event → List Event × List CodeFound
  | none, [] => ([], [])
  | some o, [] => ([o.found.event block], [o.found])
  | none, .enter (.codeBlock kind) :: es => replaceCodeFrom block (some ⟨kind, []⟩) es
  | none, e :: es =>
    let (out, found) := replaceCodeFrom block none es
    (e :: out, found)
  | some o, .leave (.codeBlock _) :: es =>
    let (out, found) := replaceCodeFrom block none es
    (o.found.event block :: out, o.found :: found)
  | some o, .text t :: es => replaceCodeFrom block (some { o with pieces := t :: o.pieces }) es
  | some o, _ :: es => replaceCodeFrom block (some o) es

/-- The stream with each code block replaced by its HTML, as `block` writes it, and the blocks
    replaced. -/
def replaceCode (block : Text → Option Text → Text) (es : List Event) :
    List Event × List CodeFound := replaceCodeFrom block none es

end JiraMarkup.Html
