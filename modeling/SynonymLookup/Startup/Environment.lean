import SynonymLookup.Json.Overlay
import SynonymLookup.Startup.Error
import SynonymLookup.Text.Blank
import SynonymLookup.Text.Pieces

/-! Options from environment variables, whose names are paths. -/

namespace SynonymLookup
namespace Startup

/-- Variables by name. -/
abbrev Environment := KeyMap String

namespace Environment

def head : String := "SYNONYMS_"

def profileName : String := "SYNONYMS_PROFILE"

/-- Two underscores separate parts, and so does a point. -/
def splitPath : List Char → List (List Char)
  | [] => [[]]
  | '_' :: '_' :: rest => [] :: splitPath rest
  | c :: rest =>
    if c = '.' then [] :: splitPath rest
    else match splitPath rest with
      | [] => [[c]]
      | part :: more => (c :: part) :: more

/-- The path of a name with the right beginning, in any case. An empty part makes it no path. -/
def path? (name : String) : Option (List String) := do
  let rest ← Text.stripHead? head.toLower.toList (Text.trim name).toLower.toList
  let parts := splitPath (Text.trimChars rest)
  if parts.any List.isEmpty then none else return parts.map String.ofList

/-- The path and text of the variables that are meant, in the order of their names. -/
def settings (e : Environment) : List (List String × String) :=
  e.entries.filterMap fun (name, s) => (path? name).map fun path => (path, s)

/-- The options that variables set, their texts read as values. -/
def layer (read : String → Option Json) (e : Environment) : Except OptionsError Json := do
  let layers ← e.settings.mapM fun (path, s) =>
    match read s with
    | some v => return Json.nested path v
    | none => throw .brokenVariable
  return Json.overlayAll (.object []) layers

end Environment

end Startup
end SynonymLookup
