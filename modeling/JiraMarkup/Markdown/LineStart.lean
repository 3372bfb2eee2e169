/-
  What the beginning of a line can open: the markers of blocks, each read off
  the text of one line without its indentation.

  * `isRule`, `headingLevel?`, `underlineLevel?`: thematic breaks, headings;
  * `fence?`, `closesFence`: the fences of code blocks;
  * `htmlStart?`: the beginning of an HTML block, and where it will end;
  * `quoteMark?`, `listMarker?`, `taskMarker?`: what opens containers;
  * `interrupts`: whether a line ends the paragraph before it.
-/
import JiraMarkup.Markdown.Cursor
import JiraMarkup.Markdown.RawHtml

namespace JiraMarkup.Markdown

/-! ## Leaves -/

/-- Whether a line is a thematic break: three or more of one of the marks, with
    blanks between them. -/
def isRule : Text → Bool
  | [] => false
  | c :: t =>
    (c == '*' || c == '-' || c == '_') && t.all (fun d => d == c || isIndent d) &&
      2 ≤ t.count c

/-- The level of a heading whose line begins with number signs. -/
def headingLevel? (t : Text) : Option Nat :=
  let level := (t.takeWhile (· == '#')).length
  if 1 ≤ level && level ≤ 6 && ((t.drop level).head?.all isSpacing) then some level else none

/-- The text of a heading whose line begins with `level` number signs: a run of
    such signs at its end is dropped if a space comes before it. -/
def headingText (level : Nat) (t : Text) : Text :=
  let inner := (t.drop level).dropWhile isBlank
  let shown := Text.trimEndWith (· == ' ') inner
  let front := Text.trimEndWith (· == '#') shown
  if front.isEmpty then []
  else
    let cut := Text.trimEndWith (· == ' ') front
    if cut.length < front.length then cut else shown

/-- The level of the heading that a line underlines. -/
def underlineLevel? : Text → Option Nat
  | [] => none
  | c :: t =>
    if (c == '=' || c == '-') && Text.isBlankLine (t.dropWhile (· == c)) then
      some (if c == '=' then 1 else 2)
    else none

/-- The mark of a code fence and its length. The rest of a line that begins with
    backticks holds none. -/
def fence? : Text → Option (Char × Nat)
  | [] => none
  | c :: t =>
    if c == '\x60' || c == '~' then
      let more := (t.takeWhile (· == c)).length
      if 2 ≤ more && (c == '~' || !(t.drop more).contains c) then some (c, more + 1) else none
    else none

/-- Whether a line closes a code block fenced by `length` marks: at least as
    many of them, then spaces only. -/
def closesFence (mark : Char) (length : Nat) (t : Text) : Bool :=
  let run := (t.takeWhile (· == mark)).length
  length ≤ run && (t.drop run).all (· == ' ')

/-! ## HTML blocks -/

/-- Where an HTML block ends. -/
inductive HtmlEnd where
  /-- With the line that holds the word. -/
  | after (word : Text)
  /-- Before a blank line. -/
  | blankLine

/-- The tags whose contents are not Markdown, with their closing tags. -/
def literalTags : List (Text × Text) :=
  [("pre", "</pre>"), ("style", "</style>"), ("script", "</script>"),
    ("textarea", "</textarea>")]

/-- The beginnings of HTML blocks that have an ending of their own. -/
def delimitedHtml : List (Text × Text) :=
  [("!--", "-->"), ("?", "?>"), ("![CDATA[", "]]>")]

/-- Whether a text begins with the word, whatever the case of its letters. -/
def beginsWithAnyCase (word t : Text) : Bool :=
  (t.take word.length).map Char.toLower == word

/-- The word that ends an HTML block which begins with `<` and then `t`, if its
    kind has one. -/
def htmlEndWord? (t : Text) : Option Text :=
  match literalTags.find? (fun (tag, _) =>
      beginsWithAnyCase tag t && (t.drop tag.length).head?.all (fun c => isSpacing c || c == '>'))
    with
  | some (_, close) => some close
  | none =>
    match delimitedHtml.find? (fun (opening, _) => Text.beginsWith opening t) with
    | some (_, close) => some close
    | none =>
      match t with
      | '!' :: c :: _ => if c.isAlpha then some ['>'] else none
      | _ => none

/-- The names of the tags that begin an HTML block wherever they stand. -/
def blockTags : List String :=
  ["address", "article", "aside", "base", "basefont", "blockquote", "body", "caption", "center",
    "col", "colgroup", "dd", "details", "dialog", "dir", "div", "dl", "dt", "fieldset",
    "figcaption", "figure", "footer", "form", "frame", "frameset", "h1", "h2", "h3", "h4", "h5",
    "h6", "head", "header", "hr", "html", "iframe", "legend", "li", "link", "main", "menu",
    "menuitem", "nav", "noframes", "ol", "optgroup", "option", "p", "param", "search", "section",
    "summary", "table", "tbody", "td", "tfoot", "th", "thead", "title", "tr", "track", "ul"]

/-- Whether `<` and then `t` is the beginning of a block tag. -/
def beginsBlockTag (t : Text) : Bool :=
  let t := (Text.after? "/" t).getD t
  let name := t.takeWhile Char.isAlphanum
  let rest := t.drop name.length
  blockTags.contains (String.ofList (name.map Char.toLower)) &&
    (rest.head?.all (fun c => isIndent c || c == '>') || Text.beginsWith "/>" rest)

/-- The end of an HTML block that a line begins, if it may stand right after a
    paragraph. -/
def htmlInterrupt? : Text → Option HtmlEnd
  | '<' :: t =>
    match htmlEndWord? t with
    | some w => some (.after w)
    | none => if beginsBlockTag t then some .blankLine else none
  | _ => none

/-- The end of the HTML block that a line begins: the cases above, or a line
    that is one tag. -/
def htmlStart? (t : Text) : Option HtmlEnd :=
  match htmlInterrupt? t with
  | some e => some e
  | none =>
    match t with
    | '<' :: r =>
      match RawHtml.tag? r with
      | some rest => if Text.isBlankLine rest then some .blankLine else none
      | none => none
    | _ => none

/-! ## Containers -/

/-- What follows the mark of a block quote and the column that belongs to it. -/
def quoteMark? (c : Cursor) : Option Cursor :=
  match c.rest with
  | '>' :: _ => some ((c.advance 1).skipColumns 1).2
  | _ => none

/-- The marker of a list item. -/
structure ListMarker where
  /-- The bullet, or the delimiter after the number. -/
  mark : Char
  /-- The number, if the list is ordered. -/
  start : Option Nat
  /-- The columns by which the contents of the item are indented. -/
  indent : Nat

/-- A bullet or a number with its delimiter at the front of a text: the mark, the
    number, and the characters that they take. -/
def bullet? : Text → Option (Char × Option Nat × Nat)
  | [] => none
  | c :: t =>
    if c == '-' || c == '+' || c == '*' then some (c, none, 1)
    else
      let digits := (c :: t).takeWhile Char.isDigit
      match (c :: t).drop digits.length with
      | d :: _ =>
        if (d == '.' || d == ')') && digits.length ≤ 9 then
          (Text.digits? digits).map fun n => (d, some n, digits.length + 1)
        else none
      | [] => none

/-- The marker of a list item indented by `outer` columns, and the position of
    its contents: after one blank, or after up to four if less than five follow. -/
def listMarker? (outer : Nat) (c : Cursor) : Option (ListMarker × Cursor) :=
  if isRule c.rest then none
  else match bullet? c.rest with
    | none => none
    | some (mark, start, width) =>
      let (one, cur) := (c.advance width).skipColumns 1
      if one == 1 || cur.atEnd then
        let indent := outer + width + 1
        if Text.isBlankLine cur.rest then some (⟨mark, start, indent⟩, cur)
        else
          let (k, cur') := cur.skipColumns 4
          if k < 4 then some (⟨mark, start, indent + k⟩, cur')
          else some (⟨mark, start, indent⟩, cur)
      else none

/-- The box of a task item, and what follows it and the blank after it. The line
    goes on after the box, or a newline ends it. -/
def taskMarker? (ended : Bool) (c : Cursor) : Option (Bool × Text) :=
  match (c.skipColumns 3).2.rest with
  | '[' :: m :: ']' :: t =>
    if isBlank m || m == 'x' || m == 'X' then
      match t with
      | [] => if ended then some (!isBlank m, []) else none
      | b :: t => if isBlank b then some (!isBlank m, t) else none
    else none
  | _ => none

/-! ## The end of a paragraph -/

/-- Whether a line begins a list item that may follow a paragraph. In a line of
    the same containers, `inside`, the item must not be empty and its number
    must be one. -/
def listInterrupts (inside : Bool) (t : Text) : Bool :=
  match bullet? t with
  | none => false
  | some (_, start, width) =>
    let rest := t.drop width
    rest.head?.all isIndent &&
      (!inside || (start.all (· == 1) && !Text.isBlankLine rest))

/-- Whether a line, `t` without its indentation of at most three columns, ends
    the paragraph before it; `inside` if it stands in all of its containers. -/
def interrupts (inside : Bool) (t : Text) : Bool :=
  t.isEmpty || isRule t || (headingLevel? t).isSome || (fence? t).isSome ||
    t.head? == some '>' || listInterrupts inside t || (htmlInterrupt? t).isSome

end JiraMarkup.Markdown
