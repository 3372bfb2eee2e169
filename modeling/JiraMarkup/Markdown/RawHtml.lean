/-
  HTML within Markdown: tags, comments, processing instructions, declarations
  and CDATA sections. Each reader takes what follows the `<` and returns what
  follows the closing `>`.

  * `RawHtml.tag?` reads an opening or a closing tag;
  * `RawHtml.inline?` reads any of the forms that may stand in running text.
-/
import JiraMarkup.Text.Blank

namespace JiraMarkup.Markdown.RawHtml

/-- The places within an opening tag. -/
inductive Place where
  /-- In the name of the tag. -/
  | name
  /-- After white space, where an attribute may begin. -/
  | gap
  /-- In the name of an attribute. -/
  | attribute
  /-- After white space behind the name of an attribute. -/
  | afterAttribute
  /-- After the equals sign. -/
  | beforeValue
  /-- In a value without quotes. -/
  | bareValue
  /-- In a value between quotes. -/
  | quotedValue (quote : Char)
  /-- Behind a value between quotes. -/
  | afterValue
  /-- Behind the slash at the end of a tag. -/
  | slash

/-- The characters that begin the name of an attribute. -/
def isAttributeStart (c : Char) : Bool := c.isAlpha || c == '_' || c == ':'

/-- The characters of the name of an attribute. -/
def isAttributePart (c : Char) : Bool :=
  c.isAlphanum || c == '_' || c == ':' || c == '.' || c == '-'

/-- The characters that cannot stand in a value without quotes. -/
def isValueStop (c : Char) : Bool :=
  c == ' ' || c == '\n' || c == '"' || c == '\'' || c == '=' || c == '<' || c == '>' || c == '\x60'

/-- The place of a tag after one of the characters that may end a name: white
    space, or the slash at the end. -/
def Place.afterName? (white : Place) (c : Char) : Option Place :=
  if isSpacing c then some white else if c == '/' then some .slash else none

/-- The place after the character `c`, unless `c` ends the tag or cannot stand
    there. -/
def Place.next? : Place → Char → Option Place
  | .name, c => if c.isAlphanum || c == '-' then some .name else afterName? .gap c
  | .gap, c => if isAttributeStart c then some .attribute else afterName? .gap c
  | .attribute, c =>
    if isAttributePart c then some .attribute
    else if c == '=' then some .beforeValue
    else afterName? .afterAttribute c
  | .afterAttribute, c =>
    if isAttributeStart c then some .attribute
    else if c == '=' then some .beforeValue
    else afterName? .afterAttribute c
  | .beforeValue, c =>
    if isSpacing c then some .beforeValue
    else if c == '"' || c == '\'' then some (.quotedValue c)
    else if isValueStop c then none
    else some .bareValue
  | .bareValue, c =>
    if c == ' ' || c == '\n' then some .gap else if isValueStop c then none else some .bareValue
  | .quotedValue q, c => some (if c == q then .afterValue else .quotedValue q)
  | .afterValue, c => afterName? .gap c
  | .slash, _ => none

/-- Whether a `>` ends the tag at this place. -/
def Place.closes : Place → Bool
  | .beforeValue | .quotedValue _ => false
  | _ => true

/-- What follows an opening tag, from a place within it. -/
def openingFrom (p : Place) : Text → Option Text
  | [] => none
  | c :: t =>
    if c == '>' && p.closes then some t
    else match p.next? c with
      | some q => openingFrom q t
      | none => none

/-- What follows the tag, if `t` is what follows its `<`. -/
def tag? : Text → Option Text
  | '/' :: c :: t =>
    if c.isAlpha then
      match (t.dropWhile (fun c => c.isAlphanum || c == '-')).dropWhile isBlank with
      | '>' :: rest => some rest
      | _ => none
    else none
  | c :: t => if c.isAlpha then openingFrom .name t else none
  | [] => none

/-- What follows the first occurrence of the word. -/
def afterFirst? (word : Text) : Text → Option Text
  | [] => Text.after? word []
  | c :: t =>
    match Text.after? word (c :: t) with
    | some rest => some rest
    | none => afterFirst? word t

/-- What follows a CDATA section: it ends at the first run of brackets, which a
    `>` has to follow. -/
def afterCData? (t : Text) : Option Text :=
  match t.dropWhile (· != ']') with
  | ']' :: rest => Text.after? ">" (rest.dropWhile (· == ']'))
  | _ => none

/-- What follows a piece of HTML in running text, if `t` is what follows its `<`. -/
def inline? : Text → Option Text
  | '!' :: '-' :: '-' :: t => afterFirst? "-->" ('-' :: '-' :: t)
  | '!' :: t =>
    match Text.after? "[CDATA[" t with
    | some inner => afterCData? inner
    | none =>
      match t with
      | c :: t => if c.isAlpha then afterFirst? ">" t else none
      | [] => none
  | '?' :: t => afterFirst? "?>" t
  | t => tag? t

end JiraMarkup.Markdown.RawHtml
