import SynonymLookup.Provider.Basic

/-! Deriving definitions from the schema: one for each eligible field of each bundle. -/

namespace SynonymLookup

/-- The computed list field, never a source of synonyms itself. -/
def synonymsFieldName : String := "synonyms"

namespace Schema

/-- One definition for each field that `eligible` takes, over the types that `covered` takes, by
type, bundle and field order. -/
def derive (s : Schema) (baseId : String) (covered : EntityType → Bool)
    (eligible : Field → Bool) : List ProviderDefinition :=
  (s.entityTypes.values.filter covered).flatMap fun t =>
    (s.bundlesOf t.id).flatMap fun b =>
      ((s.fieldsOf t.id b.id).filter eligible).map fun f =>
        ProviderDefinition.make baseId t.id b.id f.name f.label

/-- Definitions over content entities, without the computed list field. -/
def deriveFields (s : Schema) (baseId : String) (eligible : Field → Bool) :
    List ProviderDefinition :=
  s.derive baseId EntityType.content fun f => f.name != synonymsFieldName && eligible f

end Schema

namespace ProviderBase

/-- A base that covers the first field of one name in each bundle of every type. -/
def ofFieldName (id label field : String)
    (create : Schema → ProviderDefinition → ProviderConfiguration → Provider) : ProviderBase where
  id := id
  label := label
  create := create
  derive s := s.entityTypes.values.flatMap fun t =>
    (s.bundlesOf t.id).filterMap fun b =>
      (s.field? t.id b.id field).map fun f => ProviderDefinition.make id t.id b.id f.name f.label

end ProviderBase

end SynonymLookup
