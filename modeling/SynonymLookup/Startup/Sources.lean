import SynonymLookup.Startup.Environment
import SynonymLookup.Startup.FileTree
import SynonymLookup.Startup.Options
import SynonymLookup.Startup.Variable
import SynonymLookup.Toml.Document

/-! The sources of options, from the lowest to the highest: defaults, given options, files, and the
environment. Each is laid over those before it. -/

namespace SynonymLookup
namespace Startup

/-- Selects among variants of a file. -/
inductive Profile where
  | development
  | production
  | custom (name : String)
deriving DecidableEq, Repr, Inhabited

namespace Profile

def name : Profile → String
  | development => "development"
  | production => "production"
  | custom name => name

/-- Case does not matter, and two names have a short form. -/
def ofText (s : String) : Profile :=
  let name := Text.lowercase s
  if name = "production" ∨ name = "prod" then production
  else if name = "development" ∨ name = "dev" then development
  else custom name

/-- The profile that variables name. -/
def ofEnvironment (e : Environment) : Profile :=
  ((e.get? Environment.profileName).map ofText).getD development

end Profile

/-- How texts of files and of variables are read as values. Those at hand read every variable, but
of files only such without lists, tables in braces and dates. -/
structure Readers where
  ofFile? : String → Option Json := Toml.ofText?
  ofVariable? : String → Option Json := Variable.ofText?

structure Sources where
  /-- Laid over the defaults in this order. -/
  given : List Options := []
  directory : FileTree := {}
  /-- Where files are looked for, in this order. -/
  searched : List String := [""]
  /-- Where the settings of a user are kept, if that is known. -/
  configFolder : Option String := none
  profile : Profile := .development
  /-- The one file to read, in place of a search. -/
  file : Option String := none
  environment : Option Environment := none
  readers : Readers := {}

namespace Sources

/-- Where the search goes. Without other places these are the working folder and the one of its own
among the settings of the user. -/
def places (s : Sources) : List String :=
  if s.searched.isEmpty then
    s.directory.working.toList.map FileTree.absolute ++
      s.configFolder.toList.map fun folder => FileTree.join folder "synonyms"
  else s.searched

def stems : List String := ["synonyms", "config"]

def extension : String := "toml"

/-- Places and stems in the order in which they are tried. -/
def candidates (s : Sources) : List (String × String) :=
  s.places.flatMap fun place => stems.map fun stem => (place, stem)

/-- The path of the variant for the profile. -/
def variantOf (s : Sources) (c : String × String) : String :=
  FileTree.join c.1 (c.2 ++ "." ++ s.profile.name ++ "." ++ extension)

def plainOf (c : String × String) : String := FileTree.join c.1 (c.2 ++ "." ++ extension)

/-- The paths that are found for a list of candidates: the variants on the way, and the first plain
file, which ends the search. -/
def found (s : Sources) : List (String × String) → List String
  | [] => []
  | c :: rest =>
    let variant := if s.directory.has (s.variantOf c) then [s.variantOf c] else []
    if s.directory.has (plainOf c) then variant ++ [plainOf c] else variant ++ s.found rest

/-- The paths of the files that count. A named file must exist and be of the one known format. -/
def paths (s : Sources) : Except OptionsError (List String) :=
  match s.file with
  | none => return s.found s.candidates
  | some path =>
    if !s.directory.has path then throw (.fileNotFound path)
    else
      let ext := FileTree.extension path
      if ext = extension then return [path] else throw (.unsupportedFormat ext)

/-- What the file of a path sets; nothing if there is only a folder. -/
def document? (s : Sources) (path : String) : Option Json :=
  match s.directory.text? path with
  | none => some (.object [])
  | some text => s.readers.ofFile? text

/-- All layers above the defaults. -/
def layers (s : Sources) : Except OptionsError (List Json) := do
  let paths ← s.paths
  let upper ← s.environment.toList.mapM (Environment.layer s.readers.ofVariable?)
  match paths.mapM s.document? with
  | none => throw .unreadable
  | some files => return s.given.map Options.toJson ++ files ++ upper

/-- The options of all layers together, if they can be used. -/
def load (s : Sources) : Except OptionsError Options := do
  let layers ← s.layers
  match Options.ofJson? (Json.overlayAll (Options.toJson {}) layers) with
  | none => throw .unreadable
  | some o =>
    o.check
    return o

end Sources

end Startup
end SynonymLookup
