import SynonymLookup.Store.Basic
import SynonymLookup.Error
import SynonymLookup.Text.Pieces

/-! Column names and where they lead: a key of the entity type, `field.property`, or
`field.entity.key` for a key of the entities that a reference field names. -/

namespace SynonymLookup

inductive Location where
  | key (column : String)
  | property (field property : String)
  | referenced (field targetType column : String)
deriving DecidableEq, Repr

def Location.toJson : Location → Json
  | key column => Json.ofFields [("entity_key", .string column)]
  | property f p => Json.ofFields [("field", .string f), ("property", .string p)]
  | referenced f target column => Json.ofFields [
      ("field", .string f), ("target_type", .string target), ("column", .string column)]

namespace Schema

/-- A field's column, split at the first point of its name; `none` where nothing is stored. -/
def fieldLocation? (s : Schema) (entityType column : String) : Option Location := do
  let (fieldName, rest) ← Text.cutChars '.' column.toList
  let field ← s.anyField? entityType (String.ofList fieldName)
  match Text.stripHead? "entity.".toList rest with
  | none => return .property (String.ofList fieldName) (String.ofList rest)
  | some target =>
    let targetType ← field.targetType
    let definition ← s.entityType? targetType
    if definition.isKey (String.ofList target) then
      return .referenced (String.ofList fieldName) targetType (String.ofList target)
    else none

def locate (s : Schema) (entityType column : String) : Except StorageError Location :=
  match s.entityType? entityType with
  | none => throw (.unknownEntityType entityType)
  | some t =>
    if t.isKey column then return .key column
    else match s.fieldLocation? entityType column with
      | some l => return l
      | none => throw (.unknownColumn entityType column)

end Schema

/-- The value of a key column; the label may be missing. -/
def EntityType.keyValue (t : EntityType) (e : Entity) (column : String) : Option Json :=
  if column = t.keys.id then some e.id.toJson
  else if t.keys.bundle = some column then some (.string e.bundle)
  else e.label.map .string

namespace Store

/-- All values of a column for an entity, in item order. Null properties and missing targets give
none. -/
def valuesAt (s : Store) (e : Entity) : Location → List Json
  | .key column =>
    ((s.schema.entityType? e.entityType).bind fun t => t.keyValue e column).toList
  | .property field property =>
    ((e.items field).filterMap (·.get? property)).filter fun v => !v.isNull
  | .referenced field targetType column =>
    match s.schema.entityType? targetType with
    | none => []
    | some t =>
      ((e.referencedIds field).filterMap (s.load targetType)).filterMap fun target =>
        t.keyValue target column

end Store

end SynonymLookup
