import SynonymLookup.Error
import SynonymLookup.Like
import SynonymLookup.Store.Basic

/-! Selecting entities by their labels, bundle by bundle. -/

namespace SynonymLookup

/-- An entity selected by its label. -/
structure Referenceable where
  bundle : String
  id : EntityId
  label : String
deriving DecidableEq, Repr

namespace Referenceable

def ofJson? (j : Json) : Option Referenceable := do
  let r ← j.record? ["bundle", "id", "label"]
  return {
    bundle := ← r.required "bundle" Json.string?
    id := ← r.required "id" EntityId.ofJson?
    label := ← r.required "label" Json.string? }

def toJson (r : Referenceable) : Json := Json.ofFields [
  ("bundle", .string r.bundle), ("id", r.id.toJson), ("label", .string r.label)]

instance : JsonForm Referenceable := ⟨ofJson?, toJson⟩

end Referenceable

structure Selection where
  targetType : String
  /-- Empty for every bundle. -/
  bundles : List String := []
  keyword : String := ""
  mode : MatchMode := .contains
  /-- Zero for no limit. -/
  limit : Nat := 0

namespace Store

/-- All matches: the bundles in order, in each the entities in id order. A bundle asked for twice
gives its matches twice. -/
def labelMatches (s : Store) (q : Selection) : List Referenceable :=
  let bundles := if q.bundles.isEmpty then s.schema.bundleIds q.targetType else q.bundles
  let pattern := q.mode.pattern q.keyword
  bundles.flatMap fun bundle =>
    ((s.entitiesOf q.targetType).values.filter fun e =>
      e.bundle == bundle && (q.keyword.isEmpty || Like.isMatch pattern e.labelText)).map fun e =>
        ⟨bundle, e.id, e.labelText⟩

def select (s : Store) (q : Selection) : Except StorageError (List Referenceable) :=
  if (s.schema.entityType? q.targetType).isNone then throw (.unknownEntityType q.targetType)
  else if q.limit = 0 then return s.labelMatches q
  else return (s.labelMatches q).take q.limit

end Store

end SynonymLookup
