/-
  A run of the command, as a function of its arguments, its standard input and the files
  that it can reach.

  * `run` gives the `Outcome`: a refusal of the arguments, a failure, a text to print, or
    a text to save in a file;
  * `Outcome.status`, `Outcome.output`, `Outcome.errorLine?` and `Outcome.filesAfter` are
    what can be seen of it;
  * `RunError` is why a run fails. Whatever fails, nothing is printed or saved.
-/
import JiraMarkup.CommandLine.Options
import JiraMarkup.Conversion
import JiraMarkup.Files.Listing
import JiraMarkup.Settings.Loading

namespace JiraMarkup

/-! ## Failures -/

/-- Why a run fails. -/
inductive RunError where
  /-- The settings cannot be had. -/
  | load (cause : LoadError)
  /-- The standard input is not a text. -/
  | stdin (cause : FileError)
  /-- The inputs name no file. -/
  | noInput
  /-- An input cannot be read. -/
  | read (path : Path) (cause : FileError)
  /-- The output cannot be written. -/
  | write (path : Path) (cause : FileError)

/-- The text of an error. -/
def RunError.message : RunError → Text
  | load cause => cause.message
  | stdin cause => "cannot read stdin: " ++ cause.message
  | noInput => "no input files found"
  | read path cause => "cannot read " ++ path.display ++ ": " ++ cause.message
  | write path cause => "cannot write " ++ path.display ++ ": " ++ cause.message

/-! ## Steps of a run -/

namespace Options

/-- The settings of a run: those of the named file, or those found, with what the options
    change. -/
def settings (o : Options) (files : Files) : Except RunError Settings :=
  let loaded := match o.settingsFile with
    | some path => Settings.load files path
    | none => Settings.fromPlaces files
  match loaded with
  | .error cause => .error (.load cause)
  | .ok settings =>
    let settings := if o.verbose then settings.logged else settings
    .ok (match o.collapseAfter with
      | some n => settings.collapseAfter n
      | none => settings)

end Options

/-- The text of a file that is an input. -/
def readOne (files : Files) (p : Path) : Except RunError Text :=
  match files.readText p with
  | .error cause => .error (.read p cause)
  | .ok t => .ok t

/-- A text with another one put below it, or only the other one if it is empty. -/
def below (text t : Text) : Text := if text.isEmpty then t else text ++ '\n' :: t

/-- The texts of files as one, each below those before it. -/
def readAll (files : Files) (ps : List Path) : Except RunError Text :=
  ps.foldlM (fun text p => (readOne files p).map (below text)) []

/-- The text to convert: the standard input if there are no inputs, else that of all files
    that the inputs name. -/
def inputText (inputs : List Path) (files : Files) (stdin : ByteArray) : Except RunError Text :=
  if inputs.isEmpty then
    match textOf stdin with
    | .error cause => .error (.stdin cause)
    | .ok t => .ok t
  else
    match files.list inputs with
    | [] => .error .noInput
    | p :: ps => readAll files (p :: ps)

/-- The conversion that the options ask for. -/
def Options.convert (o : Options) (h : Html.Highlighter) (t : Text) (settings : Settings) :
    Conversion :=
  if o.html then toHtml h t settings else JiraMarkup.convert t settings

/-- The table of languages: a line for each tag. -/
def languageTable : Text :=
  Wiki.Language.table.flatMap fun (tag, language) => tag ++ '\t' :: language ++ ['\n']

/-! ## Runs -/

/-- How a run ends. -/
inductive Outcome where
  /-- The arguments are not carried out. -/
  | refused (cause : UsageError)
  /-- The run fails. -/
  | failed (cause : RunError)
  /-- A text goes to the standard output. -/
  | printed (text : Text) (log : List LogEntry)
  /-- A text goes to a file. -/
  | saved (path : Path) (text : Text) (log : List LogEntry)

/-- A run with these options. -/
def Options.run (o : Options) (h : Html.Highlighter) (files : Files) (stdin : ByteArray) :
    Outcome :=
  match o.settings files with
  | .error e => .failed e
  | .ok settings =>
    if o.listLanguages then .printed languageTable []
    else
      match inputText o.inputs files stdin with
      | .error e => .failed e
      | .ok t =>
        let result := o.convert h t settings
        match o.output with
        | none => .printed result.output result.log
        | some path =>
          match files.target path with
          | .error cause => .failed (.write path cause)
          | .ok _ => .saved path result.output result.log

/-- A run of the command, with code in HTML as `h` writes it. -/
def run (h : Html.Highlighter) (arguments : List Bytes) (files : Files) (stdin : ByteArray) :
    Outcome :=
  match Options.parse arguments with
  | .error e => .refused e
  | .ok o => o.run h files stdin

/-- What the command answers to a call for help. -/
def usage : Text := Text.unlines [
  "md2jira — convert Markdown to Jira wiki markup",
  "",
  "Usage: md2jira [OPTIONS] [INPUTS]...",
  "",
  "Arguments:",
  "  [INPUTS]...  Input file(s) or directory (default: stdin)",
  "",
  "Options:",
  "  -o, --output <OUTPUT>                  Output file (default: stdout)",
  "      --html                             Render HTML with highlighted code instead of Jira markup",
  "  -v, --verbose                          Log every rendered node to stderr",
  "      --collapse-after <COLLAPSE_AFTER>  Collapse code blocks longer than N lines (default: from config or 20)",
  "      --config <CONFIG>                  Config file path",
  "      --list-languages                   Print the fence-tag to Jira language table and exit",
  "  -h, --help                             Print help",
  ""]

namespace Outcome

/-- The exit status. -/
def status : Outcome → Nat
  | refused .help => 0
  | refused _ => 2
  | failed _ => 1
  | printed .. => 0
  | saved .. => 0

/-- What goes to the standard output. -/
def output : Outcome → Text
  | refused .help => usage
  | refused _ => []
  | failed _ => []
  | printed t _ => t
  | saved .. => []

/-- The line that reports a failure. -/
def errorLine? : Outcome → Option Text
  | failed e => some ("error: " ++ e.message)
  | _ => none

/-- The entries of the log. -/
def log : Outcome → List LogEntry
  | printed _ log => log
  | saved _ _ log => log
  | _ => []

/-- The files after the run. -/
def filesAfter (files : Files) : Outcome → Files
  | saved path t _ => (files.write path (Text.encode t)).toOption.getD files
  | _ => files

end Outcome

end JiraMarkup
