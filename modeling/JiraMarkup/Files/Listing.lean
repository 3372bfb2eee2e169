/-
  The Markdown files that paths name.

  * `Entry.markdownFiles` are the files with an extension of Markdown at any depth below
    a folder;
  * `Files.list` gives, for a list of paths, these files for each folder, and each file
    that is named, whatever its extension; a path that leads nowhere is skipped.
-/
import JiraMarkup.Files.Tree

namespace JiraMarkup

mutual

/-- The paths of the Markdown files at or below an entry whose path is `p`. -/
def Entry.markdownFiles (p : Path) : Entry → List Path
  | .file .. => if p.hasMarkdownExtension then [p] else []
  | .folder _ es => Path.sort (Entry.markdownFilesIn p es)

/-- The paths of the Markdown files below the entries of a folder whose path is `p`. -/
def Entry.markdownFilesIn (p : Path) : List Entry → List Path
  | [] => []
  | e :: es => e.markdownFiles (p.join e.name) ++ Entry.markdownFilesIn p es

end

namespace Files

/-- The files that one path names. -/
def listOne (files : Files) (p : Path) : List Path :=
  match files.entry? p with
  | some (.folder _ es) => Entry.markdownFilesIn p es
  | some (.file ..) => [p]
  | none => []

/-- The files that paths name, in the order of paths. -/
def list (files : Files) (inputs : List Path) : List Path :=
  Path.sort (inputs.flatMap files.listOne)

end Files

end JiraMarkup
