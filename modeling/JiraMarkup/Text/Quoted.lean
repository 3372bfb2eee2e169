/-
  Texts between quotes, as messages show them.

  * `quote` is a text between quotes; the quote, the backslash and the characters that
    cannot be shown are written as escapes;
  * `quoteAll` is a list of such texts.
-/
import JiraMarkup.Text
import JiraMarkup.Text.Printable

namespace JiraMarkup

/-- A character of a quoted text. One that cannot be shown is written by its number. -/
def quoteChar (c : Char) : Text :=
  if c = '"' then "\\\"".toList
  else if c = '\\' then "\\\\".toList
  else if c = '\n' then "\\n".toList
  else if c = '\r' then "\\r".toList
  else if c = '\t' then "\\t".toList
  else if c.toNat = 0 then "\\0".toList
  else if isPrintable c then [c]
  else "\\u\x7b" ++ Nat.toDigits 16 c.toNat ++ "\x7d"

/-- A text between quotes. -/
def quote (t : Text) : Text := "\"" ++ t.flatMap quoteChar ++ "\""

/-- The texts of a list, quoted and separated by commas, without brackets. -/
def quoteAll : List Text → Text
  | [] => []
  | [t] => quote t
  | t :: ts => quote t ++ ", " ++ quoteAll ts

end JiraMarkup
