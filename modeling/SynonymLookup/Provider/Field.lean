import SynonymLookup.Provider.Derivation

/-! Synonyms in simple scalar fields, and the search in a column that providers share. -/

namespace SynonymLookup

/-- The property with the text of a simple field; other field types hold no synonyms. -/
def simpleFieldProperty? (fieldType : String) : Option String :=
  if ["string", "string_long", "text", "text_long", "text_with_summary", "email", "telephone",
      "list_string", "integer", "decimal", "float", "list_integer", "list_float"].contains
      fieldType then some valueProperty
  else if fieldType = "link" then some "title"
  else none

namespace ProviderDefinition

/-- The field as the schema has it now. -/
def field? (d : ProviderDefinition) (s : Schema) : Option Field :=
  s.field? d.entityType d.bundle d.field

/-- The condition with its placeholders bound, restricted to the definition's bundle where the type
has bundles. -/
def bound (d : ProviderDefinition) (t : EntityType) (column : String) (c : Condition) : Condition :=
  let resolved := c.resolve column t.keys.id
  match t.keys.bundle with
  | some key => .and [Condition.onColumn key .equal (.string d.bundle), resolved]
  | none => resolved

/-- A row's text in a column, with its entity. -/
def resultOf? (column : String) (r : Row) : Option SynonymResult :=
  ((r.values.get? column).bind Json.text?).map fun s => ⟨r.entityId, s⟩

/-- Searches a column for synonyms. A column that the store does not know has none. -/
def findIn (d : ProviderDefinition) (column : String) (c : Condition) :
    Step Backend (List SynonymResult) := do
  let b ← get
  match b.schema.entityType? d.entityType with
  | none => throw (.unknownEntityType d.entityType)
  | some t =>
    match b.locate t.id column with
    | .error (.unknownColumn ..) => return []
    | .error e => throw (.storage e)
    | .ok _ =>
      let rows ← Backend.execute
        { entityType := t.id, condition := d.bound t column c, columns := [column] }
      return rows.filterMap (resultOf? column)

end ProviderDefinition

namespace FieldProvider

/-- The property as the schema has the field when the provider is made. -/
def property (s : Schema) (d : ProviderDefinition) : String :=
  ((d.field? s).bind fun f => simpleFieldProperty? f.fieldType).getD valueProperty

def column (s : Schema) (d : ProviderDefinition) : String := d.field ++ "." ++ property s d

def create (s : Schema) (d : ProviderDefinition) (c : ProviderConfiguration) : Provider where
  definition := d
  configuration := c
  capabilities := .all
  synonyms _ e := e.propertyTexts d.field (property s d)
  find := d.findIn (column s d)

def base : ProviderBase where
  id := "base_field"
  label := "Base field"
  derive s := s.deriveFields "base_field" fun f =>
    f.base && (simpleFieldProperty? f.fieldType).isSome
  create := create

def configurable : ProviderBase where
  id := "field"
  label := "Field"
  derive s := s.deriveFields "field" fun f =>
    !f.base && (simpleFieldProperty? f.fieldType).isSome
  create := create

end FieldProvider

end SynonymLookup
