import SynonymLookup.Autocomplete
import SynonymLookup.Http.Response
import SynonymLookup.Http.Route
import SynonymLookup.Text.Percent

/-! The lookups that requests reach: searching entities by name, suggestions for a keyword, and the
synonyms of one entity. -/

namespace SynonymLookup
namespace Http

/-- A step that may refuse the request. -/
abbrev Handler (α : Type) := ExceptT Refusal (StateM Service) α

def lookingUp {α : Type} (step : Action α) : Handler α := do
  match ← step.run with
  | .ok a => return a
  | .error e => throw (.lookup e)

/-- The parameters of a query, among which no known name repeats. -/
structure Parameters where
  pairs : List (String × String)

namespace Parameters

def read (known : List String) (query : String) : Handler Parameters :=
  let pairs := Text.formPairs query
  if known.all fun name => pairs.countP (·.1 == name) ≤ 1 then return ⟨pairs⟩
  else throw .unreadable

/-- An empty value counts as absent. -/
def get? (p : Parameters) (name : String) : Option String :=
  (p.pairs.lookup name).filter fun v => !v.isEmpty

def require (p : Parameters) (name : String) : Handler String :=
  match p.get? name with
  | some value => return value
  | none => throw (.missingParameter name)

end Parameters

/-- The entities whose label or synonym is the name asked for. -/
def search (query : String) : Handler Json := do
  let p ← Parameters.read ["entity_type", "bundle", "q"] query
  let entityType ← p.require "entity_type"
  let name ← p.require "q"
  let ids ← lookingUp (Lookup.byName entityType name (p.get? "bundle"))
  return Json.ofFields [("entity_ids", .array (ids.map EntityId.toJson))]

def autocomplete (query : String) : Handler Json := do
  let p ← Parameters.read ["key", "q"] query
  let key ← p.require "key"
  let suggestions ← lookingUp (Autocomplete.lookup ((p.get? "q").getD "") key)
  return Json.ofFields [("suggestions", .array (suggestions.map Suggestion.toJson))]

def decoded (part : String) : Handler String :=
  match Text.ofPathPart? part with
  | some text => return text
  | none => throw .unreadable

def entitySynonyms (typePart idPart : String) : Handler Json := do
  let entityType ← decoded typePart
  let id ← decoded idPart
  match ← lookingUp (Service.ask fun b => b.load entityType ⟨id⟩) with
  | none => throw (.noEntity entityType id)
  | some e =>
    let synonyms ← lookingUp (Lookup.entitySynonyms e)
    return Json.ofFields [("entity_type", .string entityType), ("entity_id", e.id.toJson),
      ("synonyms", Json.ofStrings synonyms)]

def handle (query : String) : Route → Handler Json
  | .search => search query
  | .autocomplete => autocomplete query
  | .entitySynonyms entityType id => entitySynonyms entityType id

/-- Only reading is allowed; `HEAD` is answered like `GET` but without a body. -/
def answer (base : BasePath) (method : String) (address : Address) : StateM Service Response := do
  match Route.ofPath? base address.path with
  | none => return Refusal.unknownPath.response
  | some route =>
    if method = "GET" then
      return .ofResult (← (handle address.query route).run)
    else if method = "HEAD" then
      return { Response.ofResult (← (handle address.query route).run) with body := none }
    else return Refusal.methodNotAllowed.response

end Http
end SynonymLookup
