import SynonymLookup.Lookup

/-! The computed list field: the synonyms of an entity, with its label in front if wanted. -/

namespace SynonymLookup

structure ListFieldSettings where
  includeEntityLabel : Bool := false
deriving DecidableEq, Repr

namespace ListFieldSettings

def key : String := "synonyms_list_field.settings"

def ofJson? (j : Json) : Option ListFieldSettings := do
  let r ← j.record? ["include_entity_label"]
  return { includeEntityLabel := ← r.withDefault "include_entity_label" Json.bool? false }

def toJson (s : ListFieldSettings) : Json := Json.ofFields [
  ("include_entity_label", .bool s.includeEntityLabel)]

instance : Stored ListFieldSettings where
  ofJson? := ofJson?
  toJson := toJson

end ListFieldSettings

namespace ListField

open Service

def settings : Action ListFieldSettings := do
  return (← getStored ListFieldSettings ListFieldSettings.key).getD {}

def saveSettings (s : ListFieldSettings) : Action Unit := setStored ListFieldSettings.key s

/-- A synonym equal to the label is listed once. -/
def values (e : Entity) : Action (List String) := do
  let head := if (← settings).includeEntityLabel then [e.labelText] else []
  return Lookup.distinct (head ++ (← Lookup.entitySynonyms e))

end ListField
end SynonymLookup
