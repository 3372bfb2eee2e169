/-
  Reading blocks: the lines of a document, one after the other, make up its
  containers and the leaves within them.

  * `Frame` is an open container, `Leaf` the open block that takes the next
    lines, `BlockReading` the state between two lines;
  * `BlockReading.line` reads one line. It first sees which containers the line
    stands in (`enterAll`), then whether it goes on with the open leaf
    (`continueLeaf?`), and if not, what it begins (`startLine`);
  * `readBlocks` is the reading of a whole text: its blocks, whose contents are
    still `Source` text, and the definitions of labels found on the way.

  A line may need the lines after it (the delimiter row of a table, the rest of a
  definition), which is why they are at hand; a definition takes them along.
-/
import JiraMarkup.Markdown.LineStart
import JiraMarkup.Markdown.Link
import JiraMarkup.Markdown.Table

namespace JiraMarkup.Markdown

open Text (SourceLine)

/-! ## The state -/

/-- The source of running text. -/
structure Source where
  /-- The box before it, if it begins a task item. -/
  task : Option Bool
  /-- Its lines, joined by newlines. -/
  text : Text

/-- Source text without a box. -/
def Source.ofText (t : Text) : Source := ⟨none, t⟩

/-- An open container, with what it holds so far, the last first. -/
inductive Frame where
  /-- The document. -/
  | document (done : List (Block Source))
  /-- A block quote. -/
  | quote (done : List (Block Source))
  /-- A list, between or around its items: its mark, its first number, whether it
      is tight so far, and its closed items. -/
  | list (mark : Char) (start : Option Nat) (tight : Bool) (items : List (List (Block Source)))
  /-- An item of a list, with the indentation of its contents. -/
  | item (indent : Nat) (done : List (Block Source))

/-- The open block that takes the next lines, with its lines so far, the last
    first. -/
inductive Leaf where
  /-- None is open. -/
  | none
  /-- A definition, which takes no more lines but lets a paragraph go on with it. -/
  | definition
  /-- A paragraph. -/
  | paragraph (task : Option Bool) (lines : List Text)
  /-- A code block between fences; its contents are as far indented as the fence. -/
  | fenced (mark : Char) (length indent : Nat) (info : Text) (lines : List Text)
  /-- An indented code block. -/
  | indented (lines : List Text)
  /-- A block of HTML. -/
  | html (ending : HtmlEnd) (pieces : List HtmlPiece)
  /-- A table. -/
  | table (alignments : List Alignment) (head : List Text) (rows : List (List Text))

/-- The state between two lines. -/
structure BlockReading where
  /-- The open containers, the innermost first. -/
  frames : List Frame
  /-- The open leaf of the innermost container. -/
  leaf : Leaf
  /-- Whether a blank line came last that may loosen a list. -/
  blankBefore : Bool
  /-- Whether the innermost item has nothing but blank lines. -/
  itemFresh : Bool
  /-- The definitions of labels, the first one first. -/
  definitions : List Definition
  /-- How many of the next lines are already read. -/
  taken : Nat

/-! ## Leaves -/

/-- The block that a leaf amounts to. Blank lines at the end of indented code do
    not belong to it. -/
def Leaf.block? : Leaf → Option (Block Source)
  | .none | .definition => Option.none
  | .paragraph task lines => some (.paragraph ⟨task, Text.unlines lines.reverse⟩)
  | .fenced _ _ _ info lines => some (.code (.fenced info) lines.reverse)
  | .indented lines => some (.code .indented (lines.dropWhile fun l => l.all isSpacing).reverse)
  | .html _ pieces => some (.html pieces.reverse)
  | .table alignments head rows =>
    some (.table alignments (head.map .ofText) (rows.reverse.map fun r => r.map .ofText))

/-! ## Containers -/

namespace Frame

/-- Adds a block to the innermost container. -/
def add (b : Block Source) : List Frame → List Frame
  | [] => []
  | .document done :: fs => .document (b :: done) :: fs
  | .quote done :: fs => .quote (b :: done) :: fs
  | .list mark start tight items :: fs => .list mark start tight ([b] :: items) :: fs
  | .item indent done :: fs => .item indent (b :: done) :: fs

/-- Closes the innermost container. -/
def close : List Frame → List Frame
  | .item _ done :: .list mark start tight items :: fs =>
    .list mark start tight (done.reverse :: items) :: fs
  | .item _ done :: fs => add (.plainGroup done.reverse) fs
  | .list _ start tight items :: fs =>
    let items := if tight then items.map fun i => i.map Block.tighten else items
    add (.list start items.reverse) fs
  | .quote done :: fs => add (.quote done.reverse) fs
  | .document done :: fs => .document done :: fs
  | [] => []

/-- The position behind what a line needs to stand in the container. -/
def enter? (f : Frame) (c : Cursor) : Option Cursor :=
  match f with
  | .document _ | .list .. => some c
  | .quote _ => quoteMark? (c.skipColumns 3).2
  | .item indent _ =>
    let (k, c') := c.skipColumns indent
    if k = indent || c'.atEnd then some c' else none

/-- The number of containers, the outermost first, that a line stands in, and the
    position behind them. -/
def enterAll : List Frame → Cursor → Nat × Cursor
  | [], c => (0, c)
  | f :: fs, c =>
    match f.enter? c with
    | none => (0, c)
    | some c' =>
      let (n, c'') := enterAll fs c'
      (n + 1, c'')

end Frame

namespace BlockReading

/-- The containers that a line stands in, and the position behind them. -/
def enterAll (s : BlockReading) (line : Text) : Nat × Cursor :=
  Frame.enterAll s.frames.reverse (.ofLine line)

/-- Adds a block to the innermost container. -/
def addBlock (b : Block Source) (s : BlockReading) : BlockReading :=
  { s with frames := Frame.add b s.frames }

/-- Closes the innermost container. -/
def closeFrame (s : BlockReading) : BlockReading :=
  let fresh := match s.frames with
    | .list _ _ true _ :: _ => false
    | _ => s.itemFresh
  { s with frames := Frame.close s.frames, itemFresh := fresh }

/-- Closes the innermost `n` containers. -/
def closeFrames : Nat → BlockReading → BlockReading
  | 0, s => s
  | n + 1, s => closeFrames n s.closeFrame

/-- An item that begins with a blank line ends with a second one. -/
def finishFreshItem (s : BlockReading) : BlockReading :=
  let s := match s.frames, s.itemFresh && s.blankBefore with
    | .item .. :: _, true => s.closeFrame
    | _, _ => s
  { s with itemFresh := false }

/-- Closes a list around no item, and makes the list around the innermost item
    loose if a blank line came last: what a new block calls for. -/
def finishList (s : BlockReading) : BlockReading :=
  let s := s.finishFreshItem
  let s := match s.frames with
    | .list .. :: _ => s.closeFrame
    | _ => s
  let frames := match s.frames, s.blankBefore with
    | f :: .list mark start _ items :: fs, true => f :: .list mark start false items :: fs
    | fs, _ => fs
  { s with frames := frames, blankBefore := false }

/-- Opens an item, in the list that waits for one if its mark is the same, and
    otherwise in a new list. -/
def openItem (m : ListMarker) (s : BlockReading) : BlockReading :=
  let s := s.finishFreshItem
  let fresh (s : BlockReading) : BlockReading :=
    let s := s.finishList
    { s with frames := .item m.indent [] :: .list m.mark m.start true [] :: s.frames }
  match s.frames with
  | .list mark start tight items :: fs =>
    if mark = m.mark then
      let list := .list mark start (tight && !s.blankBefore) items
      { s with frames := .item m.indent [] :: list :: fs, blankBefore := false }
    else fresh s
  | _ => fresh s

/-! ## Beginning a leaf -/

/-- Ends the open leaf. -/
def closeLeaf (s : BlockReading) : BlockReading :=
  let s' := match s.leaf.block? with
    | some b => s.addBlock b
    | none => s
  { s' with leaf := .none }

/-- The alignments of the table that begins with the head row `t`, if the next line
    is its delimiter row. -/
def tableStart? (s : BlockReading) (t : Text) (rest : List SourceLine) :
    Option (List Alignment) :=
  match columnCount? t, rest with
  | some n, l :: _ =>
    let (k, cur) := s.enterAll l.text
    if k = s.frames.length then (delimiterRow? cur).filter fun as => as.length = n else none
  | _, _ => none

/-- Whether a line ends the paragraph before it: `inside` if it stands in all
    containers, `t` its text without indentation. A head row of a table does if it
    begins with a pipe. -/
def endsParagraph (s : BlockReading) (inside : Bool) (t : Text) (rest : List SourceLine) : Bool :=
  interrupts inside t || (inside && t.head? == some '|' && (s.tableStart? t rest).isSome)

/-- Whether an odd number of backslashes ends a text. -/
def endsInBackslash (t : Text) : Bool := (t.reverse.takeWhile (· == '\\')).length % 2 == 1

/-- Begins a paragraph, or a table if the next line makes `t` its head row. -/
def startParagraph (task : Option Bool) (t : Text) (rest : List SourceLine) (s : BlockReading) :
    BlockReading :=
  match if endsInBackslash t then none else s.tableStart? t rest with
  | some alignments =>
    { s with leaf := .table alignments (fitCells alignments.length (cells t)) [], taken := 1 }
  | none => { s with leaf := .paragraph task [t] }

/-- The lines that may go on with a definition. -/
def definitionLines (s : BlockReading) : List SourceLine → List Text
  | [] => []
  | l :: rest =>
    let (n, cur) := s.enterAll l.text
    let inside := n == s.frames.length
    let (k, c) := cur.skipColumns 4
    if k < 4 && (s.endsParagraph inside c.rest rest || (underlineLevel? c.rest).isSome) then []
    else cur.rest :: definitionLines s rest

/-- Reads a definition, whose first line is `t`. -/
def readDefinition? (s : BlockReading) (t : Text) (rest : List SourceLine) :
    Option BlockReading :=
  match t with
  | '[' :: t =>
    let more := s.definitionLines rest
    match definition? (Text.unlines (t :: more)) with
    | some (d, r) =>
      let left := if r.isEmpty then 0 else (Text.lines r).length
      some { s with
        leaf := .definition, definitions := s.definitions ++ [d], taken := more.length - left }
    | none => none
  | _ => none

/-- Begins a definition or a paragraph. -/
def startText (t : Text) (rest : List SourceLine) (s : BlockReading) : BlockReading :=
  match s.readDefinition? t rest with
  | some s => s
  | none => s.startParagraph none t rest

/-- The text of a line with the newline that ends it. -/
def endLine (l : SourceLine) (t : Text) : Text := if l.ended then t ++ ['\n'] else t

/-- Begins a block of HTML, whose first line is `t` behind `k` columns. It may also
    end there. -/
def startHtml (ending : HtmlEnd) (k : Nat) (t : Text) (s : BlockReading) : BlockReading :=
  let indent := if k = 0 then [] else [.indent (List.replicate k ' ')]
  let s := { s with leaf := .html ending (.raw t :: indent) }
  match ending with
  | .after word => if Text.mentions word t then s.closeLeaf else s
  | .blankLine => s

/-- Begins a leaf with the rest of a line that is not blank. -/
def startLeaf (l : SourceLine) (rest : List SourceLine) (cur : Cursor) (s : BlockReading) :
    BlockReading :=
  let s := s.finishList
  let (k, c) := cur.skipColumns 4
  let t := c.rest
  if k = 4 then { s with leaf := .indented [endLine l c.text] }
  else match htmlStart? t with
    | some ending => s.startHtml ending k (endLine l t)
    | none =>
      if isRule t then s.addBlock .rule
      else match headingLevel? t with
        | some level => s.addBlock (.heading level (.ofText (headingText level t)))
        | none =>
          match fence? t with
          | some (mark, n) =>
            let info := Text.trimEndWith isSpacing ((t.drop n).dropWhile isBlank)
            { s with leaf := .fenced mark n k (unescape info) [] }
          | none => s.startText t rest

/-- Takes note of a blank line. If it is the first line of an item, the next line stands
    in the item however it is indented, and a blank one or a new block ends it
    (`finishFreshItem`). -/
def readBlankLine (s : BlockReading) : BlockReading :=
  match s.frames with
  | .quote _ :: _ => s
  | .item indent done :: fs =>
    let indent := if s.itemFresh then 0 else indent
    { s with frames := .item indent done :: fs, blankBefore := true }
  | _ => { s with blankBefore := true }

/-- Begins a leaf with the rest of a line, or takes note that it is blank. -/
def startContent (l : SourceLine) (rest : List SourceLine) (cur : Cursor) (s : BlockReading) :
    BlockReading :=
  if Text.isBlankLine cur.rest then s.readBlankLine else s.startLeaf l rest cur

/-- Begins containers and then a leaf with the rest of a line. Each container takes
    a character at least, so that `fuel` need not exceed their number. -/
def startBlocks (l : SourceLine) (rest : List SourceLine) :
    (fuel : Nat) → Cursor → BlockReading → BlockReading
  | 0, _, s => s
  | fuel + 1, cur, s =>
    let (k, c) := cur.skipColumns 4
    if 4 ≤ k then s.startContent l rest cur
    else match listMarker? k c with
      | some (m, c) =>
        let s := s.openItem m
        if Text.isBlankLine c.rest then { s with itemFresh := true }
        else match taskMarker? l.ended c with
          | some (checked, t) =>
            if Text.isBlankLine t then
              { s.addBlock (.plain ⟨some checked, []⟩) with itemFresh := true }
            else s.startParagraph (some checked) t rest
          | none => startBlocks l rest fuel c s
      | none =>
        match quoteMark? c with
        | some c =>
          let s := s.finishList
          startBlocks l rest fuel c { s with frames := .quote [] :: s.frames }
        | none => s.startContent l rest cur

/-- Reads a line that no leaf goes on with, if it stands in `n` containers. -/
def startLine (l : SourceLine) (rest : List SourceLine) (n : Nat) (cur : Cursor)
    (s : BlockReading) : BlockReading :=
  let s := s.closeLeaf
  startBlocks l rest (cur.rest.length + 1) cur (s.closeFrames (s.frames.length - n))

/-! ## Lines -/

/-- Reads a line that goes on with the open leaf, if it does: `n` is the number of
    containers that it stands in, `rest` the lines after it. A line that ends a leaf goes
    on with it too. -/
def continueLeaf? (l : SourceLine) (rest : List SourceLine) (n : Nat) (cur : Cursor)
    (s : BlockReading) : Option BlockReading :=
  let inside := n == s.frames.length
  match s.leaf with
  | .none => none
  | .definition =>
    let (k, c) := cur.skipColumns 4
    if k < 4 && s.endsParagraph inside c.rest rest || cur.unindented.isEmpty then none
    else some (s.startText cur.unindented rest)
  | .paragraph task lines =>
    let (k, c) := cur.skipColumns 4
    match if k < 4 && inside then underlineLevel? c.rest else none with
    | some level =>
      let s := { s with leaf := .none }
      some (s.addBlock (.heading level ⟨task, Text.unlines lines.reverse⟩))
    | none =>
      if k < 4 && s.endsParagraph inside c.rest rest || cur.unindented.isEmpty then none
      else some { s with leaf := .paragraph task (cur.rest :: lines) }
  | .fenced mark length indent info lines =>
    if inside then
      let (_, c) := cur.skipColumns indent
      let (k, closing) := c.skipColumns (4 - indent)
      if k < 4 - indent && closesFence mark length closing.rest then some s.closeLeaf
      else some { s with leaf := .fenced mark length indent info (endLine l c.text :: lines) }
    else none
  | .indented lines =>
    let (k, c) := cur.skipColumns 4
    if inside && (k = 4 || c.atEnd) then
      some { s with
        leaf := .indented (endLine l c.text :: lines), blankBefore := Text.isBlankLine c.rest }
    else none
  | .html ending pieces =>
    if inside then
      let t := endLine l cur.text
      let s' := { s with leaf := .html ending (.raw t :: pieces) }
      match ending with
      | .after word => some (if Text.mentions word t then s'.closeLeaf else s')
      | .blankLine => if Text.isBlankLine cur.rest then none else some s'
    else none
  | .table alignments head rows =>
    let t := cur.unindented
    match cells t with
    | [] => none
    | row =>
      if inside && !interrupts false t then
        some { s with leaf := .table alignments head (fitCells alignments.length row :: rows) }
      else none

/-- Reads one line, `rest` being the lines after it. -/
def line (l : SourceLine) (rest : List SourceLine) (s : BlockReading) : BlockReading :=
  let (n, cur) := s.enterAll l.text
  match s.continueLeaf? l rest n cur with
  | some s => s
  | none => s.startLine l rest n cur

/-- Reads the lines that no earlier one has taken along. -/
def lines : List SourceLine → BlockReading → BlockReading
  | [], s => s
  | l :: rest, s =>
    lines rest (if s.taken = 0 then s.line l rest else { s with taken := s.taken - 1 })

/-- The state before the first line. -/
def initial : BlockReading := ⟨[.document []], .none, false, false, [], 0⟩

/-- The blocks of the document, once its last line is read. -/
def finish (s : BlockReading) : List (Block Source) :=
  let s := s.closeLeaf
  match (s.closeFrames (s.frames.length - 1)).frames with
  | .document done :: _ => done.reverse
  | _ => []

end BlockReading

/-- The blocks of a text and its definitions. -/
def readBlocks (t : Text) : List (Block Source) × List Definition :=
  let s := BlockReading.initial.lines (Text.sourceLines t)
  (s.finish, s.definitions)

end JiraMarkup.Markdown
