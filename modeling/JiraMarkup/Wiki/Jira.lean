/-
  The wiki markup of Jira: `jira` says how each construct is written in it.
-/
import JiraMarkup.Settings
import JiraMarkup.Wiki.Bullets
import JiraMarkup.Wiki.Construct
import JiraMarkup.Wiki.Language

namespace JiraMarkup.Wiki

/-- A truth value as Jira writes it. -/
def flag (b : Bool) : Text := if b then "true".toList else "false".toList

/-- The line that opens a code block. -/
def codeHeader (settings : Settings) (code : Text) (lang : Option Text) : Text :=
  "\x7bcode:language=" ++ Language.ofTag lang ++ "|borderStyle=" ++ settings.borderStyle ++
    "|theme=" ++ settings.theme ++ "|linenumbers=" ++ flag settings.lineNumbers ++ "|collapse=" ++
    flag (settings.collapseThreshold < (Text.lines code).length) ++ "\x7d"

/-- A code block: its header line, the code, and the line that closes it. -/
def codeBlock (settings : Settings) (code : Text) (lang : Option Text) : Text :=
  codeHeader settings code lang ++ "\n" ++ code ++ "\n\x7bcode\x7d\n\n"

/-- A list: an empty line, its lines, and another empty line. -/
def list (body : Text) (ordered : Bool) : Text :=
  "\n" ++ Text.unlines (listLines body ordered) ++ "\n\n"

/-- The wiki markup of Jira. -/
def jira (settings : Settings) : Markup where
  paragraph t := t ++ "\n\n"
  html t := t
  heading level t := "h" ++ Text.ofNat (max 1 (min level 6)) ++ ". " ++ t ++ "\n\n"
  strong t := "*" ++ t ++ "*"
  emphasis t := "_" ++ t ++ "_"
  strikethrough t := "-" ++ t ++ "-"
  codeSpan t := "\x7b\x7b" ++ t ++ "\x7d\x7d"
  blockquote t := "\x7bquote\x7d" ++ t ++ "\x7bquote\x7d"
  lineBreak := "\n".toList
  rule := "\n----\n\n".toList
  link href text :=
    match text with
    | some t => "[" ++ t ++ "|" ++ href ++ "]"
    | none => "[" ++ href ++ "]"
  list := list
  listItem t := t ++ "\n"
  image href := "!" ++ href ++ "!"
  table header body := header ++ body ++ "\n"
  tableRow t := t ++ "\n"
  tableCell t header := (if header then "||".toList else "|".toList) ++ t
  codeBlock := codeBlock settings
  text t := t
  checkbox checked := if checked then "[x]".toList else "[-]".toList

end JiraMarkup.Wiki
