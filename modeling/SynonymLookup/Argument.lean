import SynonymLookup.Lookup

/-! A free text, such as a part of an address, as the entity that it names by label or synonym. -/

namespace SynonymLookup

structure ArgumentOptions where
  /-- Dashes stand for spaces. -/
  transform : Bool := false
  /-- The bundles to search, all when empty. -/
  bundles : List String := []
deriving DecidableEq, Repr

namespace ArgumentOptions

def ofJson? (j : Json) : Option ArgumentOptions := do
  let r ← j.record? ["transform", "bundles"]
  return {
    transform := ← r.withDefault "transform" Json.bool? false
    bundles := ← r.withDefault "bundles" Json.strings? [] }

def toJson (o : ArgumentOptions) : Json := Json.ofFields [
  ("transform", .bool o.transform), ("bundles", Json.ofStrings o.bundles)]

instance : JsonForm ArgumentOptions := ⟨ofJson?, toJson⟩

end ArgumentOptions

namespace Argument

open Service

/-- The first of the ids whose stored entity may be seen. -/
def firstAccessible (entityType : String) (mayAccess : Entity → Bool) :
    List EntityId → Action (Option EntityId)
  | [] => return none
  | id :: rest => do
    match ← ask fun b => b.load entityType id with
    | some e =>
      if mayAccess e then return some e.id else firstAccessible entityType mayAccess rest
    | none => firstAccessible entityType mayAccess rest

def findInBundles (condition : Condition) (entityType : String) :
    List String → Action (List SynonymResult)
  | [] => return []
  | bundle :: rest => do
    let found ← Lookup.findSynonyms condition entityType (some bundle)
    return found ++ (← findInBundles condition entityType rest)

/-- Labels are tried before synonyms, and synonyms are looked up only if no labelled entity may be
seen. -/
def resolve (entityType : String) (options : ArgumentOptions) (mayAccess : Entity → Bool)
    (argument : String) : Action (Option EntityId) := do
  let name := if options.transform then Text.replaceChar '-' ' ' argument else argument
  let t ← Service.entityType entityType
  let within := if options.bundles.isEmpty then none
    else some (Operator.isIn, Json.ofStrings options.bundles)
  let byLabel ← Lookup.labelled t entityType name within
  match ← firstAccessible entityType mayAccess byLabel with
  | some id => return some id
  | none =>
    let condition := Condition.onSynonym .equal (.string name)
    let found ← if options.bundles.isEmpty then Lookup.findSynonyms condition entityType none
      else findInBundles condition entityType options.bundles
    firstAccessible entityType mayAccess (found.map (·.entityId))

end Argument
end SynonymLookup
