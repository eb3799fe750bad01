import Flowchart.Cli.Host
import Flowchart.Distinct

/-!
# Folders in Memory

A folder is a list of files, each at a path from the folder down. There is a
directory wherever a path passes through. A file that is no text is kept as
none.

A path that is given as text is followed name by name. It may pass through
directories only, an empty name or a dot stays where it is, and two dots go up.
A name is looked up when the directory that should hold it has been found, and
it is only then that it can be too long. Outside the folder there are the
directories above it, in which nothing else can be seen: no file is found there,
and what is written there is lost.

## Main definitions

* `Cli.Folder`: Files by path.
* `Cli.Place`: Where a path leads.
* `Cli.Folder.locate`: The place of a path.
* `Cli.Folder.read`, `Cli.Folder.write`: One file.
* `Cli.Folder.changes`: What is new or different in a folder.
* `Cli.Session`: A folder and what has been printed.
* `Cli.Session.host`: The host of a run in a folder.
-/

namespace Flowchart

namespace Cli

/-- A path from a folder down. -/
abbrev Path := List Text

/-- How many bytes a name in a path may have. -/
def maxNameSize : Nat := 255

/-- How many bytes a whole path may have. -/
def maxPathSize : Nat := 4095

/-- Where a path leads. -/
inductive Place where
  /-- Some way down from the folder, whether something is there or not. -/
  | inside (p : Path)
  /-- To one of the directories above the folder. -/
  | above
  /-- To a name in one of the directories above the folder. -/
  | unseen
deriving DecidableEq, Repr

/-- A name that stays in its directory. -/
def staysHere (name : Text) : Bool := name = [] || name = ['.']

/-- Files by path, each with its text if it has one. -/
structure Folder where
  files : List (Path × Option Text) := []
deriving DecidableEq, Repr

namespace Folder

/-- What is in a file. -/
def file? (f : Folder) (p : Path) : Option (Option Text) := (f.files.find? (·.1 = p)).map (·.2)

/-- Some file is below a path, or the path is the folder itself. -/
def isDirectory (f : Folder) (p : Path) : Bool :=
  p.isEmpty || f.files.any fun (q, _) => p ≠ q && p.isPrefixOf q

/-- The place that names lead to from one of the directories above the folder. -/
def outside : List Text → Except FileError Place
  | [] => .ok .above
  | name :: names =>
    if staysHere name || name = ['.', '.'] then outside names
    else if maxNameSize < name.size then .error .tooLong
    else if names.isEmpty then .ok .unseen
    else .error .missing

/-- The place that names lead to from a directory. -/
def walk (f : Folder) (here : Path) : List Text → Except FileError Place
  | [] => .ok (.inside here)
  | name :: names =>
    if (f.file? here).isSome then .error .notDirectory
    else if !f.isDirectory here then .error .missing
    else if staysHere name then walk f here names
    else if name = ['.', '.'] then
      if here.isEmpty then outside names else walk f here.dropLast names
    else if maxNameSize < name.size then .error .tooLong
    else walk f (here ++ [name]) names

/-- The names of a path. Only a path that starts outside the folder has an empty
    one in front. -/
def names (path : Text) : Except FileError (List Text) :=
  if path.contains '\x00' then .error .badPath
  else if path.isEmpty then .error .missing
  else if maxPathSize < path.size then .error .tooLong
  else .ok (Text.splitWhere (· == '/') path)

/-- The place that the names of a path lead to. -/
def follow (f : Folder) (names : List Text) : Except FileError Place :=
  if names.head? = some [] then outside names else f.walk [] names

/-- The place that a path leads to. -/
def locate (f : Folder) (path : Text) : Except FileError Place := do f.follow (← names path)

/-- Read a file. -/
def read (f : Folder) (path : Text) : Except FileError Text := do
  match ← f.locate path with
  | .inside p =>
    match f.file? p with
    | some (some t) => .ok t
    | some none => .error .notText
    | none => if f.isDirectory p then .error .isDirectory else .error .missing
  | .above => .error .isDirectory
  | .unseen => .error .missing

/-- There is a file or a directory at a path. -/
def isThere (f : Folder) (path : Text) : Bool :=
  match f.locate path with
  | .ok (.inside p) => (f.file? p).isSome || f.isDirectory p
  | .ok .above => true
  | .ok .unseen | .error _ => false

/-- The folder with a text in a file. -/
def put (f : Folder) (p : Path) (t : Option Text) : Folder :=
  if (f.file? p).isSome then ⟨f.files.map fun (q, old) => if q = p then (q, t) else (q, old)⟩
  else ⟨f.files ++ [(p, t)]⟩

/-- The names that lead to the directory of the last name. -/
def parent (names : List Text) : List Text :=
  (names.reverse.dropWhile List.isEmpty).reverse.dropLast ++ [['.']]

/-- Write a file. A path that ends in a slash is the path of a directory, whose
    name is not even looked up. -/
def write (f : Folder) (path t : Text) : Except FileError Folder := do
  let names ← names path
  if names.getLast? = some [] then
    let _ ← f.follow (parent names)
    .error .isDirectory
  else
    match ← f.follow names with
    | .inside p => if f.isDirectory p then .error .isDirectory else .ok (f.put p (some t))
    | .above => .error .isDirectory
    | .unseen => .ok f

/-- What is new or different in a folder. -/
def changes (before after : Folder) : List (Path × Option Text) :=
  after.files.filter fun (p, t) => before.file? p ≠ some t

/-- A folder with the files at paths that are given as texts. -/
def ofList (files : List (Text × Option Text)) : Folder :=
  files.foldl (fun f (path, t) =>
    f.put ((Text.splitWhere (· == '/') path).filter (!staysHere ·)) t) {}

end Folder

/-- A folder and what has been printed. -/
structure Session where
  folder : Folder := {}
  printed : Text := []
deriving DecidableEq, Repr

/-- The host of a run in a folder. -/
def Session.host (userConfig : Option Text) : Host (StateM Session) where
  read path := return (← get).folder.read path
  isThere path := return (← get).folder.isThere path
  write path t := do
    match (← get).folder.write path t with
    | .ok folder => modify ({ · with folder }); return .ok ()
    | .error e => return .error e
  print t := modify fun s => { s with printed := s.printed ++ t }
  userConfig

end Cli

end Flowchart
