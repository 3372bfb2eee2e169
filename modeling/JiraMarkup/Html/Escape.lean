/-
  Characters that HTML reads as markup, and how they are written instead.

  * `escapeText` is for running text, `escapeQuoted` for attributes, `escapeCode`
    for highlighted code;
  * `escapeHref` is for addresses, whose unsafe bytes are written in hexadecimal.
-/
import JiraMarkup.Text

namespace JiraMarkup.Html

/-- A character of running text: `&`, `<` and `>` are escaped. -/
def escapeTextChar (c : Char) : Text :=
  if c = '&' then "&amp;".toList else if c = '<' then "&lt;".toList
  else if c = '>' then "&gt;".toList else [c]

/-- Running text. -/
def escapeText (t : Text) : Text := t.flatMap escapeTextChar

/-- A text between double quotes: these are escaped as well. -/
def escapeLabel (t : Text) : Text :=
  t.flatMap fun c => if c = '"' then "&quot;".toList else escapeTextChar c

/-- A character of an attribute or of code: quotes of both kinds are escaped as
    well. -/
def escapeQuotedChar (c : Char) : Text :=
  if c = '"' then "&quot;".toList else if c = '\'' then "&#39;".toList else escapeTextChar c

/-- An attribute, or code. -/
def escapeQuoted (t : Text) : Text := t.flatMap escapeQuotedChar

/-- The characters that stand in an address as they are. -/
def isHrefSafe (c : Char) : Bool :=
  c.isAlphanum || "!#$%()*+,-./:;=?@^_~".toList.contains c

/-- A byte as a percent sign and two digits in base sixteen. -/
def percentByte (b : UInt8) : Text :=
  ['%', Nat.digitChar (b.toNat / 16), Nat.digitChar (b.toNat % 16)].map Char.toUpper

/-- An address: `&` and `'` are escaped, and the bytes of all other characters that
    are not safe are written in hexadecimal. -/
def escapeHref (t : Text) : Text :=
  t.flatMap fun c =>
    if isHrefSafe c then [c] else if c = '&' then "&amp;".toList
    else if c = '\'' then "&#x27;".toList
    else (String.utf8EncodeChar c).flatMap percentByte

end JiraMarkup.Html
