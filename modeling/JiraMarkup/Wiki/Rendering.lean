/-
  Rendering a stream of events from the inside out.

  A container that is entered collects the output of what is in it; when it is left, a
  `Construct` is made of that output, and what the markup writes for it goes into the
  container around.

  * `Rendering` is the state between two events: the open containers and what has been
    written so far;
  * `Rendering.step` takes one event, `Rendering.closeAll` leaves what is still open;
  * `render` takes a whole stream. Its `Rendered` has the output, the constructs that
    were written, and those that were logged.
-/
import JiraMarkup.Markdown.Event
import JiraMarkup.Wiki.Construct

namespace JiraMarkup.Wiki

open Markdown (Event Tag)

/-! ## Open containers -/

/-- An open container. -/
structure Container where
  /-- Its tag; the document has none. -/
  tag : Option Tag
  /-- The outputs of its contents so far, the last first. -/
  pieces : List Text
  /-- The output of the head row, if it is a table. -/
  head : Text

namespace Container

/-- A container with no contents yet. -/
def ofTag (tag : Option Tag) : Container := ⟨tag, [], []⟩

/-- The output of its contents so far. -/
def contents (c : Container) : Text := c.pieces.reverse.flatten

/-- Whether it is a code block. -/
def isCodeBlock (c : Container) : Bool := c.tag.any Tag.isCodeBlock

end Container

/-! ## What a container becomes -/

/-- The text without one newline at its end. -/
def dropNewline (t : Text) : Text := if t.getLast? = some '\n' then t.dropLast else t

/-- The text that a link shows: none, so that its address is shown, if it is empty
    or the link is a bare address that is its own text. -/
def linkText (kind : Markdown.LinkKind) (target contents : Text) : Option Text :=
  if contents.isEmpty || (kind != .bracketed && contents == target) then none
  else some contents

/-- The construct that a container with these contents becomes, if it becomes one. A cell
    belongs to the head of its table if that is open. -/
def construct? (headOpen : Bool) (tag : Tag) (contents head : Text) : Option Construct :=
  match tag with
  | .paragraph => some (.paragraph contents)
  | .heading level => some (.heading level contents)
  | .quote => some (.blockquote contents)
  | .codeBlock kind => some (.codeBlock (dropNewline contents) kind.tag?)
  | .htmlBlock => some (.html contents)
  | .list start => some (.list contents start.isSome)
  | .item => some (.listItem contents)
  | .table _ => some (.table head contents)
  | .tableHead | .tableRow => some (.tableRow contents)
  | .tableCell => some (.tableCell contents headOpen)
  | .emphasis => some (.emphasis contents)
  | .strong => some (.strong contents)
  | .strikethrough => some (.strikethrough contents)
  | .link kind target _ => some (.link target (linkText kind target contents))
  | .image target _ => some (.image target)
  | .plain => none

/-! ## The state between two events -/

/-- A rendering under way. -/
structure Rendering where
  /-- The open containers, the innermost first. -/
  containers : List Container
  /-- Whether the head of a table is open. -/
  headOpen : Bool
  /-- The constructs written so far, the last first. -/
  calls : List Call
  /-- The constructs logged so far, the last first. -/
  log : List Construct

namespace Rendering

/-- The state before the first event. -/
def initial : Rendering := ⟨[.ofTag none], false, [], []⟩

/-- Adds output to the innermost container. -/
def write (t : Text) (s : Rendering) : Rendering :=
  match s.containers with
  | [] => s
  | c :: cs => { s with containers := { c with pieces := t :: c.pieces } :: cs }

/-- Adds output to the head of the innermost container. -/
def writeHead (t : Text) (s : Rendering) : Rendering :=
  match s.containers with
  | [] => s
  | c :: cs => { s with containers := { c with head := c.head ++ t } :: cs }

/-- Takes note that a construct is written; logs it if asked to. -/
def note (m : Markup) (verbose : Bool) (n : Construct) (s : Rendering) : Rendering :=
  { s with
    calls := ⟨n, n.write m⟩ :: s.calls
    log := if verbose then n :: s.log else s.log }

/-- Writes a construct into the innermost container. -/
def writeConstruct (m : Markup) (verbose : Bool) (n : Construct) (s : Rendering) : Rendering :=
  (s.note m verbose n).write (n.write m)

/-- Whether the innermost container is a code block. -/
def insideCode (s : Rendering) : Bool := s.containers.head?.any Container.isCodeBlock

/-- Writes a container that has just been left into the one around it. The head row of a
    table is kept apart from its other rows. -/
def finish (m : Markup) (verbose : Bool) (c : Container) (s : Rendering) : Rendering :=
  match c.tag with
  | none => s
  | some tag =>
    match construct? s.headOpen tag c.contents c.head with
    | none => s.write c.contents
    | some n =>
      if tag = .tableHead then
        ({ s with headOpen := false }.note m verbose n).writeHead (n.write m)
      else s.writeConstruct m verbose n

/-- Enters a container. -/
def enter (tag : Tag) (s : Rendering) : Rendering :=
  { s with
    containers := .ofTag (some tag) :: s.containers
    headOpen := s.headOpen || tag = .tableHead }

/-- Leaves the innermost container, unless it is the document. -/
def leave (m : Markup) (verbose : Bool) (s : Rendering) : Rendering :=
  match s.containers with
  | c :: around :: cs => { s with containers := around :: cs }.finish m verbose c
  | _ => s

/-- Takes one event. -/
def step (m : Markup) (verbose : Bool) (s : Rendering) : Event → Rendering
  | .enter tag => s.enter tag
  | .leave _ => s.leave m verbose
  | .text t => if s.insideCode then s.write t else s.writeConstruct m verbose (.text t)
  | .code t => s.writeConstruct m verbose (.codeSpan t)
  | .html t => s.write t
  | .inlineHtml t => s.writeConstruct m verbose (.html t)
  | .softBreak => s.writeConstruct m verbose (.text "\n")
  | .hardBreak => s.writeConstruct m verbose .lineBreak
  | .rule => s.writeConstruct m verbose .rule
  | .taskMarker checked => (s.writeConstruct m verbose (.checkbox checked)).write [' ']
  | .verbatim t => s.write t

/-- Takes the events of a stream. -/
def run (m : Markup) (verbose : Bool) (s : Rendering) (es : List Event) : Rendering :=
  es.foldl (step m verbose) s

/-- Leaves the innermost container `n` times. -/
def closeAll (m : Markup) (verbose : Bool) : (n : Nat) → Rendering → Rendering
  | 0, s => s
  | n + 1, s => closeAll m verbose n (s.leave m verbose)

/-- The output of the innermost container. -/
def output (s : Rendering) : Text :=
  match s.containers with
  | c :: _ => c.contents
  | [] => []

end Rendering

/-! ## Whole streams -/

/-- What rendering a stream gives. -/
structure Rendered where
  /-- The output. -/
  output : Text
  /-- The constructs written, in order. -/
  calls : List Call
  /-- The constructs logged, in order. -/
  log : List Construct

/-- Renders a stream of events. Containers that the stream leaves open are left at its
    end, all but the document. -/
def render (m : Markup) (verbose : Bool) (es : List Event) : Rendered :=
  let s := Rendering.initial.run m verbose es
  let s := s.closeAll m verbose (s.containers.length - 1)
  ⟨s.output, s.calls.reverse, s.log.reverse⟩

end JiraMarkup.Wiki
