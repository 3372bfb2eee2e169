/-
  The arguments of the command.

  * `Options` is what arguments ask for;
  * `Options.parse` reads them, which are bytes, one by one: `--name value`, `--name=value`,
    `-nvalue`, `-n=value` and `-n value` set an option, short flags may share one hyphen, after
    `--` everything is an input, and a lone hyphen is a name like any other. No option may be
    given twice;
  * `UsageError` is what is wrong with arguments; asking for help ends the reading too.
-/
import JiraMarkup.Files.Path

namespace JiraMarkup

/-- What the arguments of the command ask for. -/
structure Options where
  /-- The files and folders to read. -/
  inputs : List Path := []
  /-- The file to write. -/
  output : Option Path := none
  /-- Whether to write HTML. -/
  html : Bool := false
  /-- Whether to log. -/
  verbose : Bool := false
  /-- The threshold for collapsing code blocks. -/
  collapseAfter : Option Nat := none
  /-- The file of the settings. -/
  settingsFile : Option Path := none
  /-- Whether to list the languages and do nothing else. -/
  listLanguages : Bool := false
  deriving DecidableEq, Repr

/-- Why arguments are not carried out. -/
inductive UsageError where
  /-- They ask for help. -/
  | help
  /-- No option has this name. -/
  | unknown (argument : Bytes)
  /-- An option without its value. -/
  | missingValue (argument : Text)
  /-- A value for a flag. -/
  | unwantedValue (argument : Text)
  /-- A value that the option does not take. -/
  | badValue (argument : Text) (value : Bytes)
  /-- An option given twice. -/
  | repeated (argument : Text)
  deriving DecidableEq, Repr

/-- The text of an error. -/
def UsageError.message : UsageError → Text
  | help => "help requested"
  | unknown a => "unexpected argument " ++ a.display
  | missingValue a => "a value is required for " ++ a
  | unwantedValue a => "unexpected value for " ++ a
  | badValue a v => "invalid value " ++ v.display ++ " for " ++ a
  | repeated a => a ++ " cannot be used multiple times"

namespace Options

/-- The byte that options begin with. -/
def hyphen : UInt8 := 0x2D

/-- The byte between the name of an option and its value. -/
def equals : UInt8 := 0x3D

/-! ## Single options -/

/-- An option that takes no value. -/
inductive Flag where
  | html
  | verbose
  | listLanguages
  | help
  deriving DecidableEq, Repr

/-- An option that takes a value. -/
inductive Parameter where
  | output
  | collapseAfter
  | settingsFile
  deriving DecidableEq, Repr

/-- An option of either kind. -/
inductive Key where
  | flag (f : Flag)
  | parameter (s : Parameter)
  deriving DecidableEq, Repr

/-- The option of a long name. -/
def longKey? (name : Bytes) : Option Key :=
  if name = "output" then some (.parameter .output)
  else if name = "html" then some (.flag .html)
  else if name = "verbose" then some (.flag .verbose)
  else if name = "collapse-after" then some (.parameter .collapseAfter)
  else if name = "config" then some (.parameter .settingsFile)
  else if name = "list-languages" then some (.flag .listLanguages)
  else if name = "help" then some (.flag .help)
  else none

/-- The option of a short name. -/
def shortKey? (name : UInt8) : Option Key :=
  if [name] = "o" then some (.parameter .output)
  else if [name] = "v" then some (.flag .verbose)
  else if [name] = "h" then some (.flag .help)
  else none

/-- The name of a flag, as messages show it. -/
def Flag.name : Flag → Text
  | html => "--html"
  | verbose => "--verbose"
  | listLanguages => "--list-languages"
  | help => "--help"

/-- The name of an option with a value, as messages show it. -/
def Parameter.name : Parameter → Text
  | output => "--output"
  | collapseAfter => "--collapse-after"
  | settingsFile => "--config"

/-- The bound of thresholds. -/
def countLimit : Nat := 0x10000000000000000

/-- A threshold: decimal digits, after a plus sign or not, below the bound. -/
def count? (t : Text) : Option Nat :=
  let digits := match t with
    | '+' :: u => u
    | u => u
  (Text.digits? digits).filter (· < countLimit)

/-- The options with one more input. -/
def addInput (o : Options) (p : Path) : Except UsageError Options :=
  if p = [] then .error (.badValue "input" p) else .ok { o with inputs := o.inputs ++ [p] }

/-- The options with a flag raised. -/
def raise (o : Options) (f : Flag) : Except UsageError Options :=
  match f with
  | .html => if o.html then .error (.repeated f.name) else .ok { o with html := true }
  | .verbose => if o.verbose then .error (.repeated f.name) else .ok { o with verbose := true }
  | .listLanguages =>
    if o.listLanguages then .error (.repeated f.name) else .ok { o with listLanguages := true }
  | .help => .error .help

/-- The options with a value set. -/
def set (o : Options) (s : Parameter) (value : Bytes) : Except UsageError Options :=
  match s with
  | .output =>
    if o.output.isSome then .error (.repeated s.name)
    else if value = [] then .error (.badValue s.name value)
    else .ok { o with output := some value }
  | .settingsFile =>
    if o.settingsFile.isSome then .error (.repeated s.name)
    else if value = [] then .error (.badValue s.name value)
    else .ok { o with settingsFile := some value }
  | .collapseAfter =>
    if o.collapseAfter.isSome then .error (.repeated s.name)
    else
      match value.text?.bind count? with
      | some n => .ok { o with collapseAfter := some n }
      | none => .error (.badValue s.name value)

/-! ## Arguments in a row -/

/-- How far the reading of arguments has come. -/
structure Progress where
  /-- What they ask for so far. -/
  options : Options := {}
  /-- The option that waits for its value. -/
  waiting : Option Parameter := none
  /-- Whether only inputs are left. -/
  onlyInputs : Bool := false

/-- Reads an argument after its two hyphens. -/
def readLong (o : Options) (body : Bytes) : Except UsageError Progress :=
  let name := body.takeWhile (· ≠ equals)
  let value := (body.dropWhile (· ≠ equals)).tail?
  match longKey? name, value with
  | none, _ => .error (.unknown ([hyphen, hyphen] ++ name))
  | some (.flag f), none => (o.raise f).map fun o => { options := o }
  | some (.flag f), some _ => .error (.unwantedValue f.name)
  | some (.parameter s), some v => (o.set s v).map fun o => { options := o }
  | some (.parameter s), none => .ok { options := o, waiting := some s }

/-- Reads an argument after its one hyphen. -/
def readShort (o : Options) : Bytes → Except UsageError Progress
  | [] => .ok { options := o }
  | name :: body =>
    match shortKey? name with
    | none => .error (.unknown (hyphen :: name :: body))
    | some (.flag f) =>
      match o.raise f with
      | .error e => .error e
      | .ok o => readShort o body
    | some (.parameter s) =>
      if body = [] then .ok { options := o, waiting := some s }
      else
        let value := if body.head? = some equals then body.tail else body
        (o.set s value).map fun o => { options := o }

/-- Reads an argument that names an option or ends the options. -/
def readOption (p : Progress) (a : Bytes) : Except UsageError Progress :=
  match p.waiting with
  | some s => .error (.missingValue s.name)
  | none =>
    if a = [hyphen, hyphen] then .ok { p with onlyInputs := true }
    else if a.take 2 = [hyphen, hyphen] then readLong p.options (a.drop 2)
    else readShort p.options a.tail

/-- Whether an argument names an option or ends the options. -/
def isOption (a : Bytes) : Bool := a.head? = some hyphen && a != [hyphen]

/-- Reads an argument. -/
def step (p : Progress) (a : Bytes) : Except UsageError Progress :=
  if p.onlyInputs then (p.options.addInput a).map fun o => { p with options := o }
  else if isOption a then readOption p a
  else
    match p.waiting with
    | some s => (p.options.set s a).map fun o => { options := o }
    | none => (p.options.addInput a).map fun o => { options := o }

/-- What arguments ask for. -/
def parse (arguments : List Bytes) : Except UsageError Options :=
  match arguments.foldlM step {} with
  | .error e => .error e
  | .ok p =>
    match p.waiting with
    | some s => .error (.missingValue s.name)
    | none => .ok p.options

end Options

end JiraMarkup
