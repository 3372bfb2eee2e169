/-
  White space, in the three senses that the program knows.

  * `Char.isBlank`: space, tab, vertical tab and form feed, the blanks within
    a line of Markdown;
  * `Char.isSpacing`: the blanks and the two line-ending characters;
  * `Char.isWhite`: the characters with the Unicode property White_Space;
  * `Text.trimWhite`, `Text.firstWord?`: trimming and splitting by the last.
-/
import JiraMarkup.Text

namespace JiraMarkup

/-- A blank within a line: space, tab, vertical tab or form feed. -/
def isBlank (c : Char) : Bool := c == ' ' || c == '\t' || c == '\x0b' || c == '\x0c'

/-- A blank or a line-ending character. -/
def isSpacing (c : Char) : Bool := isBlank c || c == '\n' || c == '\r'

/-- A space or a tab, the characters that indent a line. -/
def isIndent (c : Char) : Bool := c == ' ' || c == '\t'

/-- The Unicode property White_Space. -/
def isWhite (c : Char) : Bool :=
  let n := c.toNat
  (9 ≤ n && n ≤ 13) || n == 0x20 || n == 0x85 || n == 0xA0 || n == 0x1680 ||
    (0x2000 ≤ n && n ≤ 0x200A) || n == 0x2028 || n == 0x2029 || n == 0x202F ||
    n == 0x205F || n == 0x3000

namespace Text

/-- The text without the characters of the class `p` at its end. -/
def trimEndWith (p : Char → Bool) (t : Text) : Text := (t.reverse.dropWhile p).reverse

/-- The text without the white space at its two ends. -/
def trimWhite (t : Text) : Text := trimEndWith isWhite (t.dropWhile isWhite)

/-- The text without the blanks at its end. -/
def trimBlankEnd (t : Text) : Text := trimEndWith isBlank t

/-- The first word of a text, words being what white space separates. -/
def firstWord? (t : Text) : Option Text :=
  match (t.dropWhile isWhite).takeWhile (fun c => !isWhite c) with
  | [] => none
  | w => some w

/-- Whether a text holds blanks only. -/
def isBlankLine (t : Text) : Bool := t.all isBlank

end Text

end JiraMarkup
