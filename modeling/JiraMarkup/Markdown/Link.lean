/-
  The parts of links: labels, targets, titles, and the definitions that give a
  label a target.

  * `label?` reads a label up to its closing bracket, `labelKey` is the form in
    which labels are compared;
  * `destination?`, `title?` read a target and a title;
  * `inlineTarget?` reads target and title between parentheses;
  * `Definition`, `definition?` are the definitions of labels;
  * `address?`, `email?` are bare addresses between angle brackets.
-/
import JiraMarkup.Markdown.Escape
import JiraMarkup.Text.Blank
import JiraMarkup.Text.CaseFold

namespace JiraMarkup.Markdown

/-! ## Labels -/

/-- The longest label. -/
def maxLabelLength : Nat := 999

/-- A label, from a place within it: `seen` tells whether some character other
    than white space has come, `broken` whether a line has just ended. -/
def labelFrom? (seen broken : Bool) : Text → Option (Text × Text)
  | [] => none
  | '\\' :: c :: t => (labelFrom? seen false t).map fun (l, r) => ('\\' :: c :: l, r)
  | c :: t =>
    if c = '[' then none
    else if c = ']' then if seen then some ([], t) else none
    else if c = '\n' then
      if broken then none else (labelFrom? seen true t).map fun (l, r) => (c :: l, r)
    else
      (labelFrom? (seen || !isSpacing c) (broken && isSpacing c) t).map fun (l, r) => (c :: l, r)

/-- The label that begins with `t`, behind its opening bracket, and what follows
    its closing bracket. -/
def label? (t : Text) : Option (Text × Text) :=
  (labelFrom? false false t).filter fun (l, _) => l.length ≤ maxLabelLength

/-- A text with each run of white space made one space, `gap` telling whether one
    is due, and none at the end. -/
def collapseSpacing (gap : Bool) : Text → Text
  | [] => []
  | c :: t =>
    if isSpacing c then collapseSpacing true t
    else if gap then ' ' :: c :: collapseSpacing false t
    else c :: collapseSpacing false t

/-- The form in which labels are compared: letters folded, white space at the
    ends dropped and otherwise made single spaces. -/
def labelKey (l : Text) : Text := Text.foldCase (collapseSpacing false (l.dropWhile isSpacing))

/-! ## Targets and titles -/

/-- The deepest nesting of parentheses in a target. -/
def maxParentheses : Nat := 32

/-- A target between angle brackets, behind the opening one. -/
def bracketedDestination? : Text → Option (Text × Text)
  | [] => none
  | '\\' :: c :: t =>
    if isAsciiPunctuation c then
      (bracketedDestination? t).map fun (d, r) => ('\\' :: c :: d, r)
    else (bracketedDestination? (c :: t)).map fun (d, r) => ('\\' :: d, r)
  | c :: t =>
    if c = '\n' ∨ c = '<' then none
    else if c = '>' then some ([], t)
    else (bracketedDestination? t).map fun (d, r) => (c :: d, r)

/-- A target without brackets, within `depth` parentheses. It ends before a
    space, a control character, or a parenthesis that closes none of its own. -/
def bareDestination? (depth : Nat) : Text → Option (Text × Text)
  | [] => if depth = 0 then some ([], []) else none
  | '\\' :: c :: t =>
    if isAsciiPunctuation c then
      (bareDestination? depth t).map fun (d, r) => ('\\' :: c :: d, r)
    else (bareDestination? depth (c :: t)).map fun (d, r) => ('\\' :: d, r)
  | c :: t =>
    if c ≤ ' ' ∨ (c = ')' ∧ depth = 0) then
      if depth = 0 then some ([], c :: t) else none
    else if c = '(' ∧ maxParentheses < depth then none
    else
      let depth' := if c = '(' then depth + 1 else if c = ')' then depth - 1 else depth
      (bareDestination? depth' t).map fun (d, r) => (c :: d, r)

/-- The target at the front of a text, as written, and what follows it. -/
def destination? : Text → Option (Text × Text)
  | '<' :: t => bracketedDestination? t
  | t => bareDestination? 0 t

/-- A title up to the mark `close`, in which the mark `opening` cannot stand. -/
def titleFrom? (opening close : Char) : Text → Option (Text × Text)
  | [] => none
  | '\\' :: c :: t =>
    if isAsciiPunctuation c then
      (titleFrom? opening close t).map fun (s, r) => ('\\' :: c :: s, r)
    else (titleFrom? opening close (c :: t)).map fun (s, r) => ('\\' :: s, r)
  | c :: t =>
    if c = close then some ([], t)
    else if c = opening then none
    else (titleFrom? opening close t).map fun (s, r) => (c :: s, r)

/-- The lines of a text without their indentation, the first excepted. -/
def unindentLines (t : Text) : Text :=
  match Text.lines t with
  | [] => []
  | l :: ls => Text.unlines (l :: ls.map fun m => m.dropWhile isIndent)

/-- The title at the front of a text, and what follows it. -/
def title? : Text → Option (Text × Text)
  | [] => none
  | c :: t =>
    if c = '"' ∨ c = '\'' ∨ c = '(' then
      (titleFrom? c (if c = '(' then ')' else c) t).map fun (s, r) =>
        (unescape (unindentLines s), r)
    else none

/-- What follows the blanks at the front of a text, of which one may be the end
    of a line. -/
def afterGap (t : Text) : Text :=
  match t.dropWhile isBlank with
  | '\n' :: r => r.dropWhile isBlank
  | r => r

/-- The target and the title of a link, behind the opening parenthesis, and what
    follows the closing one. -/
def inlineTarget? (t : Text) : Option (Text × Text × Text) :=
  match destination? (afterGap t) with
  | none => none
  | some (target, r) =>
    let r := afterGap r
    let (title, r) :=
      match title? r with
      | some (s, r) => (s, afterGap r)
      | none => ([], r)
    match r with
    | ')' :: r => some (unescape target, title, r)
    | _ => none

/-! ## Definitions -/

/-- The target that a definition gives to a label. -/
structure Definition where
  /-- The form of the label that references are compared with. -/
  key : Text
  /-- The address of the link. -/
  target : Text
  /-- The title of the link. -/
  title : Text

/-- What follows the blanks and the end of the line, if nothing else is on it. -/
def afterLine? (t : Text) : Option Text :=
  match t.dropWhile isBlank with
  | [] => some []
  | '\n' :: r => some r
  | _ => none

/-- A definition behind its opening bracket, and what follows its last line. A
    title that is not alone on the rest of its line is none, which the
    definition survives if the title began on a line of its own. -/
def definition? (t : Text) : Option (Definition × Text) := do
  let (label, r) ← label? t
  let r ← Text.after? ":" r
  let before := afterGap r
  let (target, r) ← destination? before
  if r.length = before.length then none
  else
    let bare : Definition := ⟨labelKey label, unescape target, []⟩
    let next := afterGap r
    let titled := do
      if next.length = r.length then none
      else
        let (title, r) ← title? next
        let r ← afterLine? r
        pure ({ bare with title := title }, r)
    match titled with
    | some d => some d
    | none => (afterLine? r).map fun r => (bare, r)

/-- The definition of a label, the first one counting. -/
def findDefinition? (defs : List Definition) (label : Text) : Option Definition :=
  let key := labelKey label
  defs.find? fun d => d.key == key

/-! ## Bare addresses -/

/-- The characters after the first of a scheme. -/
def isSchemePart (c : Char) : Bool := c.isAlphanum || c == '.' || c == '-' || c == '+'

/-- An address behind its `<`, with a scheme of two to 32 characters; and what
    follows its `>`. -/
def address? (t : Text) : Option (Text × Text) :=
  let scheme := t.takeWhile isSchemePart
  if scheme.head?.any Char.isAlpha && 2 ≤ scheme.length && scheme.length ≤ 32 then
    match t.drop scheme.length with
    | ':' :: r =>
      let path := r.takeWhile fun c => ' ' < c && c != '<' && c != '>'
      match r.drop path.length with
      | '>' :: rest => some (scheme ++ ':' :: path, rest)
      | _ => none
    | _ => none
  else none

/-- The characters before the at-sign of an e-mail address. -/
def isMailboxPart (c : Char) : Bool :=
  c.isAlphanum || ".!#$%&'*+/=?^_\x60\x7b|\x7d~-".toList.contains c

/-- Whether a text is one part of a domain name. -/
def isDomainPart (t : Text) : Bool :=
  !t.isEmpty && t.length ≤ 63 && t.head? != some '-' && t.getLast? != some '-'

/-- The pieces of a text between the marks `c`. -/
def piecesAt (c : Char) : Text → List Text
  | [] => [[]]
  | d :: t =>
    if d = c then [] :: piecesAt c t
    else match piecesAt c t with
      | [] => [[d]]
      | p :: ps => (d :: p) :: ps

/-- An e-mail address behind its `<`, and what follows its `>`. -/
def email? (t : Text) : Option (Text × Text) :=
  let mailbox := t.takeWhile isMailboxPart
  match mailbox, t.drop mailbox.length with
  | _ :: _, '@' :: r =>
    let domain := r.takeWhile fun c => c.isAlphanum || c == '-' || c == '.'
    match r.drop domain.length with
    | '>' :: rest =>
      if (piecesAt '.' domain).all isDomainPart then some (mailbox ++ '@' :: domain, rest)
      else none
    | _ => none
  | _, _ => none

end JiraMarkup.Markdown
