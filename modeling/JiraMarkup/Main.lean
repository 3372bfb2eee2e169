/-
  The command: it shows a run the files that its arguments name, and carries out what the
  run decides.

  * `look` reads what is at a place, with all Markdown files below it if that is asked;
  * `visible` is the tree of what a run can ask for: the inputs, the settings, and the
    folders on the way to them and to the output;
  * `carryOut` prints, saves and exits as the outcome of the run says.
-/
import JiraMarkup.CommandLine.Run

namespace JiraMarkup

/-- Bytes as a string, the form in which paths are handed to the operating system. -/
def shown (b : Bytes) : String := String.ofList b.display

/-- The path from the root along names. -/
def pathAlong (names : List Bytes) : String :=
  if names.isEmpty then "/" else shown (names.flatMap fun n => Path.slash :: n)

/-- The names of what the folder at a path holds, if a folder is there. -/
def namesIn? (path : String) : IO (Option (List Bytes)) := do
  try
    let there ← IO.FS.realPath path
    if ← there.isDir then
      return some ((← there.readDir).toList.map fun e => Text.bytes e.fileName.toList)
    else return none
  catch _ => return none

/-- What is at the end of names: a file, or a folder and, if `deep`, the Markdown files
    below it. -/
partial def look (deep : Bool) (names : List Bytes) :
    IO (List (List Bytes × Option ByteArray)) := do
  match ← namesIn? (pathAlong names) with
  | some entries =>
    let found ← entries.mapM fun n => do
      let sub := names ++ [n]
      if !deep then return []
      else if Path.hasMarkdownExtension n || (← namesIn? (pathAlong sub)).isSome then look true sub
      else return []
    return (names, none) :: found.flatten
  | none =>
    try return [(names, some (← IO.FS.readBinFile (pathAlong names)))]
    catch _ => return []

/-- The names that the pieces of a path reach one after the other. -/
def reached (names : List Bytes) : List Bytes → List (List Bytes)
  | [] => []
  | piece :: pieces =>
    let next :=
      if piece = [] ∨ piece = [Path.dot] then names
      else if piece = [Path.dot, Path.dot] then names.dropLast
      else names ++ [piece]
    next :: reached next pieces

/-- What is on the way of a path and, if `deep`, below its end. -/
def lookAlong (here : List Bytes) (deep : Bool) (p : Path) :
    IO (List (List Bytes × Option ByteArray)) := do
  let places := here :: reached (if p.isAbsolute then [] else here) p.pieces
  let onTheWay ← places.dropLast.mapM (look false)
  return onTheWay.flatten ++ (← look deep (places.getLast?.getD here))

/-- The tree of what a run with these options can ask for. -/
def visible (here : List Bytes) (o : Options) : IO Files := do
  let settings := match o.settingsFile with
    | some p => [p]
    | none => Settings.places
  let inputs ← o.inputs.mapM (lookAlong here true)
  let others ← (settings ++ o.output.toList).mapM (lookAlong here false)
  return .ofList here (inputs.flatten ++ others.flatten)

/-- Carries out a run with these arguments. -/
def carryOut (arguments : List Bytes) : IO UInt32 := do
  let options := (Options.parse arguments).toOption
  let here := (Path.pieces (← IO.currentDir).toString).filter (!·.isEmpty)
  let files ← match options with
    | some o => visible here o
    | none => pure (.ofList here [])
  let stdin ← match options with
    | some o =>
      if o.inputs.isEmpty && !o.listLanguages then (← IO.getStdin).readBinToEnd else pure .empty
    | none => pure .empty
  let outcome := run Html.plainHighlighter arguments files stdin
  for entry in outcome.log do
    IO.eprintln (String.ofList (entry.level ++ ' ' :: entry.message))
  IO.print (String.ofList outcome.output)
  match outcome with
  | .refused .help => pure ()
  | .refused cause => IO.eprintln (String.ofList ("error: " ++ cause.message))
  | .saved path text _ => IO.FS.writeBinFile (shown path) (Text.encode text)
  | _ => pure ()
  if let some line := outcome.errorLine? then IO.eprintln (String.ofList line)
  return UInt32.ofNat outcome.status

end JiraMarkup

/-- Runs the command. -/
def main (arguments : List String) : IO UInt32 :=
  JiraMarkup.carryOut (arguments.map fun a => JiraMarkup.Text.bytes a.toList)
