/-
  The bullets of nested lists. Jira marks an item by one bullet for each list
  that it is in, without blanks between them.

  * `mergeBullet?` joins the two bullets at the front of a line;
  * `mergeBullets` does so until no two are left;
  * `listLines` are the lines of a list, each behind its marker.
-/
import JiraMarkup.Text.Blank

namespace JiraMarkup.Wiki

/-- A line that begins with bullets, a space, another bullet and a space, with that
    bullet joined to those before it. -/
def mergeBullet? (line : Text) : Option Text :=
  let stars := line.takeWhile (· == '*')
  if stars.isEmpty then none
  else (Text.after? " * " (line.drop stars.length)).map fun rest => stars ++ '*' :: ' ' :: rest

/-- `mergeBullet?` up to `rounds` times. -/
def mergeRounds : (rounds : Nat) → Text → Text
  | 0, line => line
  | n + 1, line =>
    match mergeBullet? line with
    | some merged => mergeRounds n merged
    | none => line

/-- A line with the bullets at its front joined. Each round makes the line shorter,
    so that its length bounds the rounds. -/
def mergeBullets (line : Text) : Text := mergeRounds line.length line

/-- The marker of the items of a list. -/
def marker (ordered : Bool) : Char := if ordered then '#' else '*'

/-- The lines of a list: those of its body that are not empty, behind the marker. -/
def listLines (body : Text) (ordered : Bool) : List Text :=
  ((Text.lines (Text.trimWhite body)).filter fun l => !l.isEmpty).map fun l =>
    mergeBullets (marker ordered :: ' ' :: l)

end JiraMarkup.Wiki
