/-
  Settings from files.

  * `Settings.load` reads the settings of a file; `LoadError` is why that fails and
    `LoadError.message` says it;
  * `Settings.fromPlaces` reads the first of two files that is there, and takes the defaults
    if neither is.
-/
import JiraMarkup.Files.Tree
import JiraMarkup.Settings.Reading

namespace JiraMarkup

/-- Why the settings of a file cannot be had. -/
inductive LoadError where
  /-- The file cannot be read. -/
  | read (path : Path) (cause : FileError)
  /-- The file, which holds `text`, does not hold settings. -/
  | parse (path : Path) (text : Text) (failure : Json.Failure)

/-- The text of an error. -/
def LoadError.message : LoadError → Text
  | read path cause => "cannot read config at " ++ path.display ++ ": " ++ cause.message
  | parse path text failure =>
    "invalid config JSON at " ++ path.display ++ ": " ++ failure.message text

namespace Settings

/-- The settings of the file at a path. -/
def load (files : Files) (path : Path) : Except LoadError Settings :=
  match files.readText path with
  | .error cause => .error (.read path cause)
  | .ok text =>
    match ofJson text with
    | .error failure => .error (.parse path text failure)
    | .ok settings => .ok settings

/-- Where settings are looked for. -/
def places : List Path := ["md2jira.config.json", "config/md2jira.config.json"]

/-- The settings of the first place that holds a file, or the defaults. -/
def fromPlaces (files : Files) : Except LoadError Settings :=
  match places.find? files.isFile with
  | some path => load files path
  | none => .ok default

end Settings

end JiraMarkup
