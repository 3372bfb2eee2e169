/-
  Paths of files, as they are written.

  * `Path.pieces` are the names between the slashes of a path;
  * `Path.components` are the steps that a path takes, without the slashes and dots that
    lead nowhere; `Path.le` orders paths by their steps;
  * `Path.join` is the path of an entry of a folder;
  * `Path.hasMarkdownExtension` tells whether a path is a text that ends in an extension of
    Markdown files.
-/
import JiraMarkup.Text.Bytes

namespace JiraMarkup

/-- A path as it is written, in bytes. -/
abbrev Path := Bytes

namespace Path

/-- The byte between the names of a path. -/
def slash : UInt8 := 0x2F

/-- The byte of the names that lead nowhere and up. -/
def dot : UInt8 := 0x2E

/-! ## Pieces -/

/-- The pieces between the slashes of a path: one more than it has slashes. -/
def pieces : Path → List Bytes
  | [] => [[]]
  | b :: bs =>
    if b = slash then [] :: pieces bs
    else match pieces bs with
      | [] => [[b]]
      | p :: ps => (b :: p) :: ps

/-- Whether a path begins at the root. -/
def isAbsolute (p : Path) : Bool := p.head? = some slash

/-- The path of the entry `name` of the folder at `p`. -/
def join (p : Path) (name : Bytes) : Path :=
  if p.getLast? = some slash then p ++ name else p ++ slash :: name

/-! ## Order -/

/-- A step that a path takes. -/
inductive Component where
  /-- To the root. -/
  | root
  /-- To the folder that it starts in, said in so many words. -/
  | current
  /-- To the folder above. -/
  | parent
  /-- To an entry. -/
  | entry (name : Bytes)
  deriving DecidableEq, Repr

/-- The step that a piece within a path stands for. An empty piece and a dot are none. -/
def Component.ofPiece? (piece : Bytes) : Option Component :=
  if piece = [] ∨ piece = [dot] then none
  else if piece = [dot, dot] then some .parent
  else some (.entry piece)

/-- The steps of a path. A dot counts at the front only. -/
def components (p : Path) : List Component :=
  let front : List Component :=
    if isAbsolute p then [.root]
    else if p.pieces.head? = some [dot] then [.current]
    else []
  front ++ p.pieces.filterMap Component.ofPiece?

/-- The place of a step in the order: the root, the dot, the two dots, then the names by
    their bytes. -/
def Component.key : Component → List Nat
  | root => [0]
  | current => [1]
  | parent => [2]
  | entry name => 3 :: name.map UInt8.toNat

/-- Whether a step comes before another. -/
def Component.before (a b : Component) : Bool := List.lex a.key b.key Nat.blt

/-- The order of paths: by their first different step, a path before those that go on
    from it. -/
def le (p q : Path) : Bool := !List.lex q.components p.components Component.before

/-- Paths in order. Paths that take the same steps stay as they are. -/
def sort (ps : List Path) : List Path := ps.mergeSort le

/-! ## Extensions -/

/-- A letter of an extension as a small letter. The Kelvin sign is a capital k. -/
def smallLetter (c : Char) : Char :=
  if c = '\u212a' then 'k' else c.toLower

/-- What follows the last dot of a text, in small letters. -/
def extension? (t : Text) : Option Text :=
  if '.' ∈ t then some ((t.reverse.takeWhile (· ≠ '.')).reverse.map smallLetter) else none

/-- Whether a text ends in an extension of Markdown files. -/
def endsInMarkdown (t : Text) : Bool :=
  extension? t = some "md".toList ∨ extension? t = some "markdown".toList

/-- Whether a path ends in an extension of Markdown files. No path does that is not a text. -/
def hasMarkdownExtension (p : Path) : Bool := p.text?.any endsInMarkdown

end Path

end JiraMarkup
