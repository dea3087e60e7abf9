import SynonymLookup.KeyMap
import SynonymLookup.Text.Pieces

/-! Files and folders, and the paths that lead to them. -/

namespace SynonymLookup
namespace Startup

/-- Where a path leads, by the names from the root. -/
inductive Place where
  | file (names : List String)
  | folder (names : List String)
deriving DecidableEq, Repr

structure FileTree where
  files : List (List String × String) := []
  folders : List (List String) := [[]]
  /-- Where paths start that have no slash in front; none if that folder is unknown or gone. -/
  working : Option (List String) := some []

namespace FileTree

/-- A point stays in a folder, and two points leave it, unless it is the root. -/
def step (t : FileTree) : Place → String → Option Place
  | .file _, _ => none
  | .folder names, name =>
    if name = "" ∨ name = "." then some (.folder names)
    else if name = ".." then some (.folder names.dropLast)
    else
      let names := names ++ [name]
      if (t.files.lookup names).isSome then some (.file names)
      else if t.folders.contains names then some (.folder names)
      else none

def isAbsolute (path : String) : Bool := Text.startsWith path "/"

def walk (t : FileTree) (path : String) (start : List String) : Option Place :=
  (Text.split '/' path).foldlM t.step (.folder start)

def find? (t : FileTree) (path : String) : Option Place :=
  if isAbsolute path then t.walk path [] else t.working.bind (t.walk path)

/-- Something is there, a file or a folder. -/
def has (t : FileTree) (path : String) : Bool := (t.find? path).isSome

/-- A folder and those around it, up to the root. -/
def around (names : List String) : List (List String) :=
  (List.range (names.length + 1)).reverse.map fun depth => names.take depth

def textFrom? (t : FileTree) (path : String) (start : List String) : Option String :=
  match t.walk path start with
  | some (.file names) => t.files.lookup names
  | _ => none

/-- The text of the file that is read for a path. Where there is no such file in the working folder,
it may be in one around that. -/
def text? (t : FileTree) (path : String) : Option String :=
  let starts := if isAbsolute path then [[]] else t.working.toList.flatMap around
  starts.findSome? (t.textFrom? path)

/-- Makes the folders on the way and puts a text at the end. -/
def write (t : FileTree) (path : String) (text : String) : FileTree :=
  let enter := fun (t, folder) name =>
    if name = "" ∨ name = "." then (t, folder)
    else if name = ".." then (t, folder.dropLast)
    else
      let folder := folder ++ [name]
      ({ t with folders := folder :: t.folders }, folder)
  match (Text.split '/' path).reverse with
  | [] => t
  | name :: before =>
    let (t, folder) := before.reverse.foldl enter (t, t.working.getD [])
    { t with files := (folder ++ [name], text) :: t.files }

/-- Some files, by their paths from a working folder below the root. -/
def ofFiles (files : KeyMap String) : FileTree :=
  files.entries.foldl (fun t e => t.write e.1 e.2)
    { folders := [[], ["work"]], working := some ["work"] }

def absolute (names : List String) : String := "/" ++ "/".intercalate names

def join (place name : String) : String := if place = "" then name else place ++ "/" ++ name

/-- What follows the last point of a name, if the point is not its first character. -/
def extensionOf (name : String) : String :=
  match Text.splitChars '.' name.toList with
  | [] | [_] | [[], _] => ""
  | parts => String.ofList (parts.getLast?.getD [])

/-- The extension of the last name on a path; two points are no name. -/
def extension (path : String) : String :=
  match ((Text.split '/' path).filter fun name => name != "" && name != ".").getLast? with
  | none | some ".." => ""
  | some name => extensionOf name

end FileTree

end Startup
end SynonymLookup
