/-
  Trees of files and folders, and the paths through them.

  * `Entry` is a file or a folder with all that it holds; `Entry.find?` and `Entry.place`
    look for an entry and put one there;
  * `Files` is a tree with the folder in which a program runs, `Files.ofList` builds one;
  * `Files.locate` follows a path to the names that lead there from the root;
  * `Files.entry?`, `Files.readText` and `Files.write` are what a program can do with a
    path, `FileError` why it cannot.
-/
import JiraMarkup.Files.Path
import JiraMarkup.Text.Utf8

namespace JiraMarkup

/-! ## Entries -/

/-- A file or a folder, with its name. -/
inductive Entry where
  /-- A file and its bytes. -/
  | file (name : Bytes) (content : ByteArray)
  /-- A folder and what it holds. -/
  | folder (name : Bytes) (entries : List Entry)

namespace Entry

/-- The name of an entry. -/
def name : Entry → Bytes
  | file name _ => name
  | folder name _ => name

/-- Whether an entry is a folder. -/
def isFolder : Entry → Bool
  | file .. => false
  | folder .. => true

/-- What a folder holds; a file holds nothing. -/
def entries : Entry → List Entry
  | file .. => []
  | folder _ es => es

/-- The entry that names lead to. -/
def find? : Entry → List Bytes → Option Entry
  | e, [] => some e
  | e, n :: ns => (e.entries.find? fun sub => sub.name = n).bind fun sub => sub.find? ns

/-- The entries with `f` applied to the one of a name, or to nothing at the end. -/
def alter (n : Bytes) (f : Option Entry → Entry) : List Entry → List Entry
  | [] => [f none]
  | e :: es => if e.name = n then f (some e) :: es else e :: alter n f es

/-- What a folder holds after an entry has been put where names lead; folders on the way
    are made. A file replaces what is there, an empty folder leaves it. -/
def place (content : Option ByteArray) : List Bytes → List Entry → List Entry
  | [], es => es
  | [n], es => alter n (fun old => match content, old with
      | some bytes, _ => file n bytes
      | none, some e => e
      | none, none => folder n []) es
  | n :: ns, es => alter n (fun old => folder n (place content ns ((old.map entries).getD []))) es

end Entry

/-! ## Paths through a tree -/

/-- Why a path cannot be used. -/
inductive FileError where
  /-- Nothing is there. -/
  | notFound
  /-- The path goes on from a file. -/
  | notFolder
  /-- A folder is there. -/
  | isFolder
  /-- The bytes of the file are not a text. -/
  | notText
  deriving DecidableEq, Repr

/-- The text of an error. -/
def FileError.message : FileError → Text
  | notFound => "No such file or directory (os error 2)"
  | notFolder => "Not a directory (os error 20)"
  | isFolder => "Is a directory (os error 21)"
  | notText => "stream did not contain valid UTF-8"

/-- The text that bytes hold. -/
def textOf (bytes : ByteArray) : Except FileError Text :=
  match Text.decode? bytes with
  | some t => .ok t
  | none => .error .notText

/-- The files that a program can reach. -/
structure Files where
  /-- What the root folder holds. -/
  root : List Entry
  /-- The names that lead from the root to the folder in which the program runs. -/
  here : List Bytes

namespace Files

/-- The entry that names lead to from the root. -/
def find? (files : Files) (names : List Bytes) : Option Entry :=
  (Entry.folder [] files.root).find? names

/-- The names to which a piece of a path leads from the names `at`. Even an empty piece
    and a dot can only follow a folder. -/
def step (files : Files) (names : List Bytes) (piece : Bytes) : Except FileError (List Bytes) :=
  match files.find? names with
  | none => .error .notFound
  | some e =>
    if !e.isFolder then .error .notFolder
    else if piece = [] ∨ piece = [Path.dot] then .ok names
    else if piece = [Path.dot, Path.dot] then .ok names.dropLast
    else .ok (names ++ [piece])

/-- The names to which pieces lead, whether or not the last of them is there. -/
def follow (files : Files) (names : List Bytes) (pieces : List Bytes) :
    Except FileError (List Bytes) :=
  pieces.foldlM files.step names

/-- The names from which a path sets out. -/
def start (files : Files) (p : Path) : List Bytes := if p.isAbsolute then [] else files.here

/-- The entry at a path and the names that lead to it. -/
def locate (files : Files) (p : Path) : Except FileError (List Bytes × Entry) :=
  if p = [] then .error .notFound
  else
    match files.follow (files.start p) p.pieces with
    | .error e => .error e
    | .ok names =>
      match files.find? names with
      | some e => .ok (names, e)
      | none => .error .notFound

/-- The entry at a path. -/
def entry? (files : Files) (p : Path) : Option Entry := (files.locate p).toOption.map Prod.snd

/-- Whether a file is at a path. -/
def isFile (files : Files) (p : Path) : Bool :=
  match files.entry? p with
  | some e => !e.isFolder
  | none => false

/-- The bytes of the file at a path. -/
def readBytes (files : Files) (p : Path) : Except FileError ByteArray :=
  match files.locate p with
  | .error e => .error e
  | .ok (_, .folder ..) => .error .isFolder
  | .ok (_, .file _ bytes) => .ok bytes

/-- The text of the file at a path. -/
def readText (files : Files) (p : Path) : Except FileError Text :=
  match files.readBytes p with
  | .error e => .error e
  | .ok bytes => textOf bytes

/-- The names of the file that writing to a path makes or replaces. The path has to lead to
    a folder and end in a name. -/
def target (files : Files) (p : Path) : Except FileError (List Bytes) :=
  let pieces := (p.pieces.reverse.dropWhile (· = [])).reverse
  let last := pieces.getLast?.getD []
  if p = [] then .error .notFound
  else
    match files.follow (files.start p) pieces.dropLast with
    | .error e => .error e
    | .ok names =>
      match files.find? names with
      | none => .error .notFound
      | some (.file ..) => .error .notFolder
      | some (.folder ..) =>
        if last = [] ∨ last = [Path.dot] ∨ last = [Path.dot, Path.dot] ∨
            p.getLast? = some Path.slash then
          .error .isFolder
        else
          match files.find? (names ++ [last]) with
          | some (.folder ..) => .error .isFolder
          | _ => .ok (names ++ [last])

/-- The tree with a file, or an empty folder, where names lead. -/
def place (files : Files) (names : List Bytes) (content : Option ByteArray) : Files :=
  { files with root := Entry.place content names files.root }

/-- The tree of files and empty folders, each with the names that lead to it. -/
def ofList (here : List Bytes) (contents : List (List Bytes × Option ByteArray)) : Files :=
  contents.foldl (fun files (names, content) => files.place names content) ⟨[], here⟩

/-- The tree after a file has been written. -/
def write (files : Files) (p : Path) (content : ByteArray) : Except FileError Files :=
  match files.target p with
  | .error e => .error e
  | .ok names => .ok (files.place names (some content))

end Files

end JiraMarkup
