/-
  Reading running text: code spans, HTML, links, images, breaks and escapes,
  from left to right. The pairing of emphasis comes last, within each link and
  then around the links.

  * `Reading` is the state: the pieces read so far, and the brackets that are
    still open;
  * `Reading.step` reads what begins at one character, and says how many of the
    characters after it belong to it;
  * `readInlines` is the reading of a whole text.

  The text of a paragraph has its lines joined by newlines; the indentation of a
  line is dropped as running text, but kept in code spans and HTML.
-/
import JiraMarkup.Markdown.Emphasis
import JiraMarkup.Markdown.Link
import JiraMarkup.Markdown.RawHtml

namespace JiraMarkup.Markdown

/-! ## Code spans -/

/-- What stands before the next run of exactly `n` backticks, and what follows
    it; `run` counts the backticks that have just come. -/
def codeSpanFrom? (n run : Nat) : Text → Option (Text × Text)
  | [] => if run = n then some ([], []) else none
  | c :: t =>
    if c = '\x60' then (codeSpanFrom? n (run + 1) t).map fun (s, r) => (c :: s, r)
    else if run = n then some ([], c :: t)
    else (codeSpanFrom? n 0 t).map fun (s, r) => (c :: s, r)

/-- The contents of the code span that `n` backticks open, and what follows it. -/
def codeSpan? (n : Nat) (t : Text) : Option (Text × Text) :=
  (codeSpanFrom? n 0 t).map fun (s, r) => (s.take (s.length - n), r)

/-- The code of a code span: line ends become spaces, and one space at each of
    its ends is dropped, unless there is nothing else. -/
def spanCode (t : Text) : Text :=
  let t := t.map fun c => if c = '\n' then ' ' else c
  if t.head? == some ' ' && t.getLast? == some ' ' && !t.all (· == ' ') then
    (t.drop 1).dropLast
  else t

/-! ## The state -/

/-- A bracket that may open the text of a link or of an image. -/
structure Bracket where
  /-- Whether it opens an image. -/
  image : Bool
  /-- Whether a link may still begin here: not if one already lies inside. -/
  live : Bool
  /-- The text behind the bracket. -/
  source : Text
  /-- The pieces before it, the last first. -/
  before : List Piece

/-- The state of reading: what has come since the last open bracket, the last
    piece first, and the open brackets, the last first. -/
structure Reading where
  /-- The pieces since the last open bracket. -/
  pieces : List Piece
  /-- The open brackets. -/
  brackets : List Bracket

namespace Reading

/-- Adds a piece. -/
def add (i : Inline) (s : Reading) : Reading := { s with pieces := .inline i :: s.pieces }

/-- Adds text. -/
def addText (t : Text) (s : Reading) : Reading := if t.isEmpty then s else s.add (.text t)

/-- Opens a bracket, behind which `source` follows. -/
def openBracket (image : Bool) (source : Text) (s : Reading) : Reading :=
  ⟨[], ⟨image, true, source, s.pieces⟩ :: s.brackets⟩

/-- The pieces that a bracket leaves if it opens nothing, up to the last one. -/
def bracketText (b : Bracket) (inner : List Piece) : List Piece :=
  inner ++ .inline (.text (if b.image then ['!', '['] else ['['])) :: b.before

/-- After a link no earlier bracket opens a link around it. -/
def barLinks (brackets : List Bracket) : List Bracket :=
  brackets.map fun b => if b.image then b else { b with live := false }

/-- Where a closing bracket leads, `rest` being the text behind it: target, title
    and the text behind the link. After the bracket a target may stand in
    parentheses, or a label in brackets; if there are empty brackets or none, the
    text of the link is the label. -/
def linkEnd? (defs : List Definition) (b : Bracket) (rest : Text) :
    Option (Text × Text × Text) :=
  let inParentheses :=
    match rest with
    | '(' :: t => inlineTarget? t
    | _ => none
  match inParentheses with
  | some found => some found
  | none =>
    let byText (behind : Text) :=
      match label? b.source with
      | some (label, r) =>
        if r.length = rest.length then
          (findDefinition? defs label).map fun d => (d.target, d.title, behind)
        else none
      | none => none
    match rest with
    | '[' :: ']' :: t => byText t
    | '[' :: t =>
      match label? t with
      | some (label, r) => (findDefinition? defs label).map fun d => (d.target, d.title, r)
      | none => byText rest
    | _ => byText rest

/-- How many characters of `t` come before its ending `behind`. -/
def passed (t behind : Text) : Nat := t.length - behind.length

/-- How many characters indent the line that begins here. -/
def indentation (t : Text) : Nat := (t.takeWhile isIndent).length

/-- Reads a closing bracket, `rest` being the text behind it: as far as the link goes
    that it closes, if it closes one. -/
def closeBracket (defs : List Definition) (rest : Text) (s : Reading) : Nat × Reading :=
  match s.brackets with
  | [] => (0, s.addText [']'])
  | b :: bs =>
    let failed : Reading := (⟨bracketText b s.pieces, bs⟩ : Reading).addText [']']
    if !b.live then (0, failed)
    else match linkEnd? defs b rest with
      | none => (0, failed)
      | some (target, title, behind) =>
        let inner := resolve s.pieces.reverse
        let s :=
          if b.image then ⟨.inline (.image target title inner) :: b.before, bs⟩
          else ⟨.inline (.link .bracketed target title inner) :: b.before, barLinks bs⟩
        (passed rest behind, s)

/-- Reads what follows a `<`: as far as the address or HTML goes that begins there. -/
def readAngle (rest : Text) (s : Reading) : Nat × Reading :=
  match address? rest with
  | some (target, r) => (passed rest r, s.add (.link .address target [] [.text target]))
  | none =>
    match email? rest with
    | some (target, r) => (passed rest r, s.add (.link .email target [] [.text target]))
    | none =>
      match RawHtml.inline? rest with
      | some r => (passed rest r, s.add (.html ('<' :: Text.before rest r)))
      | none => (0, s.addText ['<'])

/-- Reads a run of blanks, of which `c` is the first: a break if a line ends behind it,
    nothing at the end of the text. -/
def readBlanks (c : Char) (rest : Text) (s : Reading) : Nat × Reading :=
  let blanks := rest.takeWhile isBlank
  match rest.drop blanks.length with
  | [] => (blanks.length, s)
  | '\n' :: r =>
    (blanks.length + 1 + indentation r, s.add (if blanks.isEmpty then .softBreak else .hardBreak))
  | _ => (blanks.length, s.addText (c :: blanks))

/-- Reads what follows a backslash. -/
def readEscape (rest : Text) (s : Reading) : Nat × Reading :=
  match rest with
  | '\n' :: r => (1 + indentation r, s.add .hardBreak)
  | c :: _ => if isAsciiPunctuation c then (1, s.addText [c]) else (0, s.addText ['\\'])
  | [] => (0, s.addText ['\\'])

/-- Reads the code span that backticks open, of which one has been passed. -/
def readTicks (rest : Text) (s : Reading) : Nat × Reading :=
  let more := rest.takeWhile (· == '\x60')
  let n := more.length + 1
  match codeSpan? n (rest.drop more.length) with
  | some (code, _) => (more.length + code.length + n, s.add (.code (spanCode code)))
  | none => (more.length, s.addText ('\x60' :: more))

/-- Reads a run of marks, of which one has been passed; `prev` is the character before
    it. -/
def readRun (mark : Char) (prev : Option Char) (rest : Text) (s : Reading) : Nat × Reading :=
  let more := rest.takeWhile (· == mark)
  let n := more.length + 1
  let next := (rest.drop more.length).head?
  let opens := canOpen mark n prev next
  let closes := canClose mark n prev next
  if (opens || closes) && (mark != '~' || n ≤ 2) then
    (more.length, { s with pieces := .run ⟨mark, n, opens, closes⟩ :: s.pieces })
  else (more.length, s.addText (mark :: more))

/-- The characters at which something other than text may begin. -/
def isSpecial (c : Char) : Bool :=
  isBlank c || c == '\n' || c == '\\' || c == '\x60' || c == '<' || c == '&' || c == '!' ||
    c == '[' || c == ']' || c == '*' || c == '_' || c == '~'

/-- Reads what begins with the character `c`, between the character `prev` and the
    text `rest`; gives the number of characters of `rest` that belong to it. -/
def step (defs : List Definition) (prev : Option Char) (c : Char) (rest : Text) (s : Reading) :
    Nat × Reading :=
  if isBlank c then s.readBlanks c rest
  else if c = '\n' then (indentation rest, s.add .softBreak)
  else if c = '\\' then s.readEscape rest
  else if c = '\x60' then s.readTicks rest
  else if c = '<' then s.readAngle rest
  else if c = '&' then
    match entity? rest with
    | some (value, r) => (passed rest r, s.addText value)
    | none => (0, s.addText [c])
  else if c = '!' then
    match rest with
    | '[' :: r => (1, s.openBracket true r)
    | _ => (0, s.addText [c])
  else if c = '[' then (0, s.openBracket false rest)
  else if c = ']' then s.closeBracket defs rest
  else if c = '*' ∨ c = '_' ∨ c = '~' then s.readRun c prev rest
  else
    let more := rest.takeWhile fun d => !isSpecial d
    (more.length, s.addText (c :: more))

/-- Reads a text from the left. The next `skip` characters belong to what has been
    read already; `prev` is the character before the text. -/
def run (defs : List Definition) : (skip : Nat) → (prev : Option Char) → Text → Reading → Reading
  | _, _, [], s => s
  | n + 1, _, c :: t, s => run defs n (some c) t s
  | 0, prev, c :: t, s =>
    let (n, s) := s.step defs prev c t
    run defs n (some c) t s

end Reading

/-- The running text that a source text stands for, where `defs` are the
    definitions of the document. -/
def readInlines (defs : List Definition) (t : Text) : List Inline :=
  let s := Reading.run defs 0 none t ⟨[], []⟩
  resolve (s.brackets.foldl (fun inner b => Reading.bracketText b inner) s.pieces).reverse

end JiraMarkup.Markdown
