/-
  The languages of Jira code blocks.

  * `Language.table` lists the tags of Markdown code fences that Jira knows, each with
    the name that Jira gives to the language;
  * `Language.ofTag`, `Language.isKnown` look a tag up.
-/
import JiraMarkup.Text

namespace JiraMarkup.Wiki.Language

/-- The known tags and the languages that they stand for. -/
def table : List (Text × Text) :=
  [("shell", "bash"), ("actionscript3", "actionscript3"), ("bash", "bash"),
    ("csharp", "csharp"), ("coldfusion", "coldfusion"), ("cpp", "cpp"), ("css", "css"),
    ("delphi", "delphi"), ("diff", "diff"), ("erlang", "erlang"), ("groovy", "groovy"),
    ("java", "java"), ("javafx", "javafx"), ("js", "javascript"), ("javascript", "javascript"),
    ("ts", "javascript"), ("typescript", "javascript"), ("perl", "perl"), ("php", "php"),
    ("none", "none"), ("powershell", "powershell"), ("python", "python"), ("ruby", "ruby"),
    ("scala", "scala"), ("sql", "sql"), ("vb", "vb"), ("html/xml", "html/xml")].map
    fun (tag, language) => (String.toList tag, String.toList language)

/-- Whether a tag is known. -/
def isKnown (tag : Text) : Bool := (table.lookup tag).isSome

/-- The language of a tag: empty, which leaves the choice to Jira, if there is no
    tag or an unknown one. -/
def ofTag (tag : Option Text) : Text :=
  (tag.bind fun t => table.lookup t).getD []

end JiraMarkup.Wiki.Language
