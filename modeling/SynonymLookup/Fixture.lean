import SynonymLookup.Json.Reader
import SynonymLookup.Settings.Blobs
import SynonymLookup.Store.Basic

/-! Fixtures: a dataset written as JSON, applied to a store and settings entry by entry, so that
the last entry of a name wins. -/

namespace SynonymLookup

/-- A field with the entity type and bundle it belongs to. -/
structure FixtureField where
  entityType : String
  bundle : String
  definition : Field
deriving DecidableEq, Repr

namespace FixtureField

/-- The definition's keys stand beside the two others. -/
def ofJson? (j : Json) : Option FixtureField := do
  let r ← j.openRecord? (["entity_type", "bundle"] ++ Field.fieldNames)
  return {
    entityType := ← r.required "entity_type" Json.string?
    bundle := ← r.withDefault "bundle" Json.string? ""
    definition := ← Field.ofRecord? r }

def toJson (f : FixtureField) : Json := Json.ofFields
  ([("entity_type", .string f.entityType), ("bundle", .string f.bundle)] ++ f.definition.toFields)

end FixtureField

structure Fixture where
  entityTypes : List EntityType := []
  bundles : KeyMap (List Bundle) := .empty
  fields : List FixtureField := []
  entities : List Entity := []
  config : Blobs := .empty
deriving Inhabited

namespace Fixture

def ofJson? (j : Json) : Option Fixture := do
  let r ← j.record? ["entity_types", "bundles", "fields", "entities", "config"]
  return {
    entityTypes := ← r.withDefault "entity_types" (Json.list? EntityType.ofJson?) []
    bundles := ← r.withDefault "bundles" (Json.map? (Json.list? Bundle.ofJson?)) .empty
    fields := ← r.withDefault "fields" (Json.list? FixtureField.ofJson?) []
    entities := ← r.withDefault "entities" (Json.list? Entity.ofJson?) []
    config := ← r.withDefault "config" (Json.map? Json.any?) .empty }

/-- In a field every key is wanted, in the other records only the known ones are. -/
def shape : Json.Shape := .record [
  ("entity_types", .list EntityType.shape),
  ("bundles", .map (.list Bundle.shape)),
  ("fields", .value),
  ("entities", .list Entity.shape),
  ("config", .value)]

def ofText? (text : String) : Option Fixture := (Json.read? shape text).bind ofJson?

def toJson (f : Fixture) : Json := Json.ofFields [
  ("entity_types", .array (f.entityTypes.map EntityType.toJson)),
  ("bundles", Json.ofMap (fun l => .array (l.map Bundle.toJson)) f.bundles),
  ("fields", .array (f.fields.map FixtureField.toJson)),
  ("entities", .array (f.entities.map Entity.toJson)),
  ("config", Json.ofMap id f.config)]

instance : JsonForm Fixture := ⟨ofJson?, toJson⟩

def applySchema (f : Fixture) (s : Schema) : Schema :=
  let s := f.entityTypes.foldl Schema.insertEntityType s
  let s := f.bundles.entries.foldl (fun s e => e.2.foldl (fun s b => s.insertBundle e.1 b) s) s
  f.fields.foldl (fun s d => s.insertField d.entityType d.bundle d.definition) s

def applyStore (f : Fixture) (s : Store) : Store :=
  f.entities.foldl Store.insertEntity (s.mapSchema f.applySchema)

def applyBlobs (f : Fixture) (b : Blobs) : Blobs :=
  f.config.entries.foldl (fun b e => b.insert e.1 e.2) b

end Fixture

end SynonymLookup
