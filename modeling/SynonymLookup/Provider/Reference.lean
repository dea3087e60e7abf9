import SynonymLookup.Provider.Field

/-! The labels of referenced entities as synonyms. -/

namespace SynonymLookup
namespace ReferenceProvider

def targetType? (b : Backend) (d : ProviderDefinition) : Option String :=
  (d.field? b.schema).bind (·.targetType)

/-- The referenced entities; a store that does not answer counts as one without them. -/
def targets (b : Backend) (targetType : String) (ids : List EntityId) : KeyMap Entity :=
  if ids.isEmpty then .empty else (b.loadAll targetType ids).toOption.getD .empty

/-- The labels that are not empty, in the order of the ids. -/
def labels (ids : List EntityId) (targets : KeyMap Entity) : List String :=
  ((ids.filterMap fun id => targets.get? id.text).map Entity.labelText).filter fun l => !l.isEmpty

def synonyms (d : ProviderDefinition) (b : Backend) (e : Entity) : List String :=
  match targetType? b d with
  | none => []
  | some t =>
    let ids := e.referencedIds d.field
    labels ids (targets b t ids)

/-- Loads the targets of all entities at once. -/
def synonymsOfAll (d : ProviderDefinition) (b : Backend) (entities : KeyMap Entity) :
    Except LookupError (KeyMap (List String)) := do
  ensureSingleBundle entities.values
  match targetType? b d with
  | none => return entities.map fun _ => []
  | some t =>
    let references := entities.map fun e => e.referencedIds d.field
    let every := KeyMap.ofList (references.values.flatten.map fun id => (id.text, id))
    let found := targets b t every.values
    return references.map fun ids => labels ids found

/-- The column of the targets' labels; none where the target type has gone or has no labels. -/
def column? (b : Backend) (d : ProviderDefinition) : Option String := do
  let t ← targetType? b d
  let definition ← b.schema.entityType? t
  let label ← definition.labelColumn
  return d.field ++ ".entity." ++ label

def find (d : ProviderDefinition) (c : Condition) : Step Backend (List SynonymResult) := do
  match column? (← get) d with
  | none => return []
  | some column => d.findIn column c

def create (_ : Schema) (d : ProviderDefinition) (c : ProviderConfiguration) : Provider where
  definition := d
  configuration := c
  capabilities := .all
  synonyms := synonyms d
  synonymsOfAll := synonymsOfAll d
  find := find d

def base : ProviderBase where
  id := "entity_reference"
  label := "Entity reference"
  derive s := s.deriveFields "entity_reference" Field.isReference
  create := create

end ReferenceProvider
end SynonymLookup
