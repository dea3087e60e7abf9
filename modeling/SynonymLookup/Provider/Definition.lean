import SynonymLookup.Schema
import SynonymLookup.Text.Pieces

/-! Provider definitions, derived from the schema and never authored, and their plugin ids
`base:type.bundle.field`. -/

namespace SynonymLookup

/-- A provider base bound to one field of one bundle. -/
structure ProviderDefinition where
  id : String
  baseId : String
  /-- The label of the field. -/
  label : String
  entityType : String
  bundle : String
  field : String
deriving DecidableEq, Repr, Inhabited

namespace ProviderDefinition

def make (baseId entityType bundle field label : String) : ProviderDefinition where
  id := baseId ++ ":" ++ entityType ++ "." ++ bundle ++ "." ++ field
  baseId := baseId
  label := label
  entityType := entityType
  bundle := bundle
  field := field

def ofJson? (j : Json) : Option ProviderDefinition := do
  let r ← j.record?
    ["id", "base_id", "label", "controlled_entity_type", "controlled_bundle", "field"]
  return {
    id := ← r.required "id" Json.string?
    baseId := ← r.required "base_id" Json.string?
    label := ← r.required "label" Json.string?
    entityType := ← r.required "controlled_entity_type" Json.string?
    bundle := ← r.required "controlled_bundle" Json.string?
    field := ← r.required "field" Json.string? }

def toJson (d : ProviderDefinition) : Json := Json.ofFields [
  ("id", .string d.id),
  ("base_id", .string d.baseId),
  ("label", .string d.label),
  ("controlled_entity_type", .string d.entityType),
  ("controlled_bundle", .string d.bundle),
  ("field", .string d.field)]

instance : JsonForm ProviderDefinition := ⟨ofJson?, toJson⟩

end ProviderDefinition

/-- The parts of a complete plugin id. -/
structure PluginId where
  baseId : String
  entityType : String
  bundle : String
  field : String
deriving DecidableEq, Repr

namespace PluginId

/-- Cuts at the first colon and the next two points. Only the base may be empty; the field keeps
further points. -/
def parse? (id : String) : Option PluginId := do
  let (base, derivative) ← Text.cutChars ':' id.toList
  let (entityType, rest) ← Text.cutChars '.' derivative
  let (bundle, field) ← Text.cutChars '.' rest
  if entityType.isEmpty || bundle.isEmpty || field.isEmpty then none
  else return ⟨String.ofList base, String.ofList entityType, String.ofList bundle,
    String.ofList field⟩

end PluginId

end SynonymLookup
