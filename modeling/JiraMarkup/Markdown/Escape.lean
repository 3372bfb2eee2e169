/-
  Characters written in another way: backslash escapes and character
  references.

  * `entity?` reads a reference such as `amp;` or `#38;`, behind its `&`;
  * `unescape` replaces every escape and reference of a text.
-/
import JiraMarkup.Markdown.EntityTable
import JiraMarkup.Text.Punctuation
import JiraMarkup.Text

namespace JiraMarkup.Markdown

/-- The character with a given number, or the replacement character if there is
    none. -/
def charOfReference (n : Nat) : Char :=
  if n ≠ 0 ∧ n.isValidChar then Char.ofNat n else '\uFFFD'

/-- The value of a digit in base sixteen. -/
def hexValue (c : Char) : Nat :=
  if c.isDigit then c.toNat - '0'.toNat else c.toLower.toNat - 'a'.toNat + 10

/-- Whether a character is a digit in base sixteen. -/
def isHexDigit (c : Char) : Bool :=
  c.isDigit || ('a'.toNat ≤ c.toLower.toNat && c.toLower.toNat ≤ 'f'.toNat)

/-- A reference by number: one to `limit` digits and a semicolon. -/
def numericEntity? (base limit : Nat) (isDigit : Char → Bool) (t : Text) : Option (Text × Text) :=
  let digits := (t.take limit).takeWhile isDigit
  match t.drop digits.length with
  | ';' :: rest =>
    if digits.isEmpty then none
    else some ([charOfReference (digits.foldl (fun n c => base * n + hexValue c) 0)], rest)
  | _ => none

/-- A reference by name, closed by a semicolon. -/
def namedEntity? (t : Text) : Option (Text × Text) :=
  let name := t.takeWhile Char.isAlphanum
  match name, t.drop name.length with
  | c :: _, ';' :: rest =>
    ((entityTable c).lookup (String.ofList name)).map fun value => (value.toList, rest)
  | _, _ => none

/-- What a character reference stands for, if `t` is what follows its `&`, and
    the text after it. -/
def entity? : Text → Option (Text × Text)
  | '#' :: 'x' :: t => numericEntity? 16 6 isHexDigit t
  | '#' :: 'X' :: t => numericEntity? 16 6 isHexDigit t
  | '#' :: t => numericEntity? 10 7 Char.isDigit t
  | t => namedEntity? t

/-- `unescape` after the first `n` characters, which are dropped. -/
def unescapeFrom : Nat → Text → Text
  | _, [] => []
  | n + 1, _ :: t => unescapeFrom n t
  | 0, c :: t =>
    if c = '\\' then
      match t with
      | [] => [c]
      | d :: _ => if isAsciiPunctuation d then d :: unescapeFrom 1 t else c :: unescapeFrom 0 t
    else if c = '&' then
      match entity? t with
      | some (value, rest) => value ++ unescapeFrom (t.length - rest.length) t
      | none => c :: unescapeFrom 0 t
    else c :: unescapeFrom 0 t

/-- The text with each backslash before punctuation dropped, and each character
    reference replaced by what it stands for. -/
def unescape (t : Text) : Text := unescapeFrom 0 t

end JiraMarkup.Markdown
