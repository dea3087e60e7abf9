import SynonymLookup.Text.Pieces

/-! Request addresses: below which base path the lookups are served, and which lookup an address
asks for. Addresses are compared as written, before any decoding. -/

namespace SynonymLookup
namespace Http

/-- A path and the query behind its question mark. -/
structure Address where
  path : String
  query : String
deriving DecidableEq, Repr

namespace Address

/-- A path with its query; a fragment is dropped. -/
def ofPath (s : String) : Address :=
  let sent := ((Text.cut '#' s).map (·.1)).getD s
  match Text.cut '?' sent with
  | some (path, query) => ⟨path, query⟩
  | none => ⟨sent, ""⟩

def isSchemeChar (c : Char) : Bool := c.isAlphanum || c = '+' || c = '-' || c = '.'

def endsHost (c : Char) : Bool := c = '/' || c = '?' || c = '#'

/-- An address begins with its path or with scheme and host, which do not matter. A host alone has
no path. -/
def ofText (s : String) : Address :=
  if Text.startsWith s "/" then ofPath s
  else match Text.stripHead? "://".toList (s.toList.dropWhile isSchemeChar) with
    | some rest => ofPath (String.ofList (rest.dropWhile fun c => !endsHost c))
    | none => ⟨"", ""⟩

end Address

/-- Where the lookups are served: empty for the root, else a path without a slash at its end. -/
structure BasePath where
  text : String
deriving DecidableEq, Repr

/-- Why nothing can be served below a path. -/
inductive BasePathError where
  | invalid (path : String)
  /-- A part that starts with a colon is reserved. -/
  | reserved (path : String)
deriving DecidableEq, Repr

def BasePathError.message : BasePathError → String
  | invalid path => "Invalid base path: " ++ path
  | reserved path => "Reserved base path: " ++ path

namespace BasePath

def dropSlashes (s : String) : List Char :=
  (s.toList.reverse.dropWhile (· = '/')).reverse

/-- Braces and stars belong to patterns, not to a base path. -/
def isPatternChar (c : Char) : Bool := c = '\x7b' || c = '\x7d' || c = '*'

/-- Slashes at the end do not count; what is left starts with a slash or is empty. -/
def ofText (s : String) : Except BasePathError BasePath :=
  match dropSlashes s with
  | [] => return ⟨""⟩
  | c :: rest =>
    if c ≠ '/' || rest.any isPatternChar then throw (.invalid s)
    else if (Text.splitChars '/' rest).any fun part => part.head? == some ':' then
      throw (.reserved s)
    else return ⟨String.ofList (c :: rest)⟩

end BasePath

/-- What can be asked for, with path parts as written. -/
inductive Route where
  | search
  | autocomplete
  | entitySynonyms (entityType id : String)
deriving DecidableEq, Repr

/-- The route of a path below a base path. -/
def Route.ofPath? (base : BasePath) (path : String) : Option Route := do
  let rest ← Text.stripHead? base.text.toList path.toList
  match Text.split '/' (String.ofList rest) with
  | ["", "search"] => some search
  | ["", "autocomplete"] => some autocomplete
  | ["", "entity", entityType, id, "synonyms"] => some (entitySynonyms entityType id)
  | _ => none

end Http
end SynonymLookup
