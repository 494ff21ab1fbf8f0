import SceneScript.CommandLine.Path

/-
  Files and folders as a value: what reading, writing and making folders do to
  them and which mistakes they report. A tree holds everything from the top
  down, without links, and the working folder is a place in it: a path is
  followed from the top if it starts with the separator, and from the working
  folder if not. An operation that fails leaves the tree as it was; folders that
  were made on the way to one that could not be made are not kept.
-/

namespace SceneScript

/-- Why a file operation failed. -/
inductive FileError where
  | notFound
  | alreadyExists
  | notFolder
  | isFolder
  deriving DecidableEq, Repr

def FileError.message : FileError → String
  | .notFound => "No such file or directory (os error 2)"
  | .alreadyExists => "File exists (os error 17)"
  | .notFolder => "Not a directory (os error 20)"
  | .isFolder => "Is a directory (os error 21)"

/-- What a place in a tree holds. -/
inductive Entry where
  | file (content : List UInt8)
  | folder
  deriving DecidableEq, Repr

/-- A place in a tree: the names on the way to it from the top. -/
abbrev Place := List Path.Name

structure FileTree where
  workingFolder : Place
  entries : List (Place × Entry)
  deriving DecidableEq, Repr

namespace FileTree

/-- The entry at a place; the top is a folder. -/
def lookup (t : FileTree) (place : Place) : Option Entry :=
  if place = [] then some .folder else t.entries.lookup place

def put (t : FileTree) (place : Place) (e : Entry) : FileTree :=
  { t with entries := (place, e) :: t.entries.filter (fun x => x.1 ≠ place) }

/-- The tree with a folder and all folders on the way to it. -/
def withFolder (t : FileTree) (place : Place) : FileTree :=
  (List.range place.length).foldl (fun t n => t.put (place.take (n + 1)) .folder) t

/-- A working folder that holds files, with the folders on the way to them. -/
def ofFiles (workingFolder : Place) (files : List (Path × List UInt8)) : FileTree :=
  files.foldl (fun t file =>
    let place := workingFolder ++ file.1.parts
    (t.withFolder place.dropLast).put place (.file file.2))
    (withFolder ⟨workingFolder, []⟩ workingFolder)

/-- Follow names from the folder `here`. Everything before the last name has to
be a folder; the last one may be missing. Nothing is above the top. -/
def follow (t : FileTree) (here : Place) : List Path.Name → Except FileError Place
  | [] => .ok here
  | name :: rest =>
    if name = Path.here then t.follow here rest
    else if name = Path.above then t.follow here.dropLast rest
    else if rest = [] then .ok (here ++ [name])
    else
      match t.lookup (here ++ [name]) with
      | some .folder => t.follow (here ++ [name]) rest
      | some (.file _) => .error .notFolder
      | none => .error .notFound

/-- Where a path is followed from. -/
def start (t : FileTree) (path : Path) : Place :=
  if path.isAbsolute then [] else t.workingFolder

/-- The names of a path that are followed, single dots included. -/
def steps (path : Path) : List Path.Name := (Path.split Path.slash path.bytes).filter (· ≠ [])

/-- Where a path leads. -/
def place (t : FileTree) (path : Path) : Except FileError Place :=
  if path.bytes = [] then .error .notFound else t.follow (t.start path) (steps path)

def read (t : FileTree) (path : Path) : Except FileError (List UInt8) := do
  match t.lookup (← t.place path) with
  | some (.file content) => if path.endsInSeparator then .error .notFolder else .ok content
  | some .folder => .error .isFolder
  | none => .error .notFound

def write (t : FileTree) (path : Path) (content : List UInt8) : Except FileError FileTree := do
  let place ← t.place path
  if path.endsInSeparator then .error .isFolder
  else
    match t.lookup place with
    | some .folder => .error .isFolder
    | _ => .ok (t.put place (.file content))

/-- Make one folder, unless it is there. -/
def makeFolder (t : FileTree) (start : Place) (names : List Path.Name) :
    Except FileError FileTree := do
  let place ← t.follow start names
  match t.lookup place with
  | some .folder => .ok t
  | some (.file _) => .error .alreadyExists
  | none => .ok (t.put place .folder)

/-- Make a folder, given by its names from the last to the first. Only if the
way to it is missing are the folders there made first. -/
def makeFolders (t : FileTree) (start : Place) : List Path.Name → Except FileError FileTree
  | [] => .ok t
  | name :: before =>
    let names := (name :: before).reverse
    match t.makeFolder start names with
    | .error .notFound => do
      let made ← t.makeFolders start before
      made.makeFolder start names
    | result => result

/-- Make the folder a file is to be written in. -/
def makeFolderFor (t : FileTree) (path : Path) : Except FileError FileTree :=
  t.makeFolders (t.start path) path.parts.dropLast.reverse

/-- The content of the file at a place. -/
def content? (t : FileTree) (place : Place) : Option (List UInt8) :=
  match t.lookup place with
  | some (.file content) => some content
  | _ => none

end FileTree

end SceneScript
