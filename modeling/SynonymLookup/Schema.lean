import SynonymLookup.Json.Record

/-! Entity types, their bundles and their fields, and how they are edited: an entry of a known name
is replaced by one at the end. -/

namespace SynonymLookup

/-- The columns of an entity type that hold id, bundle and label. -/
structure EntityKeys where
  id : String := "id"
  bundle : Option String := none
  label : Option String := none
deriving DecidableEq, Repr, Inhabited

structure EntityType where
  id : String
  label : String := ""
  /-- Only content entities carry fields that provide synonyms. -/
  content : Bool := true
  keys : EntityKeys := {}
deriving DecidableEq, Repr, Inhabited

structure Bundle where
  id : String
  label : String
deriving DecidableEq, Repr, Inhabited

structure Field where
  name : String
  label : String := ""
  fieldType : String
  /-- A base field is shared by all bundles of its type. -/
  base : Bool := false
  targetType : Option String := none
deriving DecidableEq, Repr, Inhabited

namespace EntityKeys

def fieldNames : List String := ["id", "bundle", "label"]

def shape : Json.Shape := .ofNames fieldNames

def ofJson? (j : Json) : Option EntityKeys := do
  let r ← j.record? fieldNames
  return {
    id := ← r.withDefault "id" Json.string? "id"
    bundle := ← r.optional "bundle" Json.string?
    label := ← r.optional "label" Json.string? }

def toJson (k : EntityKeys) : Json := Json.ofFields [
  ("id", .string k.id),
  ("bundle", Json.ofOption .string k.bundle),
  ("label", Json.ofOption .string k.label)]

end EntityKeys

namespace EntityType

def hasBundles (t : EntityType) : Bool := t.keys.bundle.isSome

/-- The column of the label; users are labelled by their name unless they say otherwise. -/
def labelColumn (t : EntityType) : Option String :=
  match t.keys.label with
  | some key => some key
  | none => if t.id = "user" then some "name" else none

/-- The column is the id, bundle or label key. -/
def isKey (t : EntityType) (column : String) : Bool :=
  column == t.keys.id || t.keys.bundle == some column || t.labelColumn == some column

def shape : Json.Shape :=
  .record [("id", .value), ("label", .value), ("content", .value), ("keys", EntityKeys.shape)]

def ofJson? (j : Json) : Option EntityType := do
  let r ← j.record? ["id", "label", "content", "keys"]
  return {
    id := ← r.required "id" Json.string?
    label := ← r.withDefault "label" Json.string? ""
    content := ← r.withDefault "content" Json.bool? true
    keys := ← r.withDefault "keys" EntityKeys.ofJson? {} }

def toJson (t : EntityType) : Json := Json.ofFields [
  ("id", .string t.id),
  ("label", .string t.label),
  ("content", .bool t.content),
  ("keys", t.keys.toJson)]

instance : JsonForm EntityType := ⟨ofJson?, toJson⟩

end EntityType

namespace Bundle

def fieldNames : List String := ["id", "label"]

def shape : Json.Shape := .ofNames fieldNames

def ofJson? (j : Json) : Option Bundle := do
  let r ← j.record? fieldNames
  return {
    id := ← r.required "id" Json.string?
    label := ← r.required "label" Json.string? }

def toJson (b : Bundle) : Json := Json.ofFields [("id", .string b.id), ("label", .string b.label)]

instance : JsonForm Bundle := ⟨ofJson?, toJson⟩

end Bundle

namespace Field

def referenceType : String := "entity_reference"

def isReference (f : Field) : Bool := f.fieldType == referenceType

def reference (name label targetType : String) : Field :=
  { name, label, fieldType := referenceType, targetType := some targetType }

def fieldNames : List String := ["name", "label", "field_type", "base", "target_type"]

def ofRecord? (r : Record) : Option Field := do
  return {
    name := ← r.required "name" Json.string?
    label := ← r.withDefault "label" Json.string? ""
    fieldType := ← r.required "field_type" Json.string?
    base := ← r.withDefault "base" Json.bool? false
    targetType := ← r.optional "target_type" Json.string? }

def ofJson? (j : Json) : Option Field := (j.record? fieldNames).bind ofRecord?

def toFields (f : Field) : List (String × Json) := [
  ("name", .string f.name),
  ("label", .string f.label),
  ("field_type", .string f.fieldType),
  ("base", .bool f.base),
  ("target_type", Json.ofOption .string f.targetType)]

def toJson (f : Field) : Json := Json.ofFields f.toFields

instance : JsonForm Field := ⟨ofJson?, toJson⟩

end Field

structure Schema where
  entityTypes : KeyMap EntityType := .empty
  bundles : KeyMap (List Bundle) := .empty
  baseFields : KeyMap (List Field) := .empty
  /-- By entity type, then by bundle. -/
  bundleFields : KeyMap (KeyMap (List Field)) := .empty
deriving Inhabited

/-- Appends an entry in place of those with the same name. -/
def replaceAtEnd {α : Type} (name : α → String) (entry : α) (l : List α) : List α :=
  l.filter (fun a => name a != name entry) ++ [entry]

namespace Schema

def entityType? (s : Schema) (id : String) : Option EntityType := s.entityTypes.get? id

def baseFieldsOf (s : Schema) (entityType : String) : List Field :=
  (s.baseFields.get? entityType).getD []

def ownFieldsOf (s : Schema) (entityType bundle : String) : List Field :=
  ((s.bundleFields.get? entityType).bind (·.get? bundle)).getD []

/-- The bundles of a type; one without bundles has a single one named after it. -/
def bundlesOf (s : Schema) (entityType : String) : List Bundle :=
  match s.entityType? entityType with
  | none => []
  | some t =>
    if t.hasBundles then (s.bundles.get? entityType).getD [] else [⟨t.id, t.label⟩]

def bundleIds (s : Schema) (entityType : String) : List String :=
  (s.bundlesOf entityType).map (·.id)

/-- The label of a bundle, its id if the bundle is unknown. -/
def bundleLabel (s : Schema) (entityType bundle : String) : String :=
  (((s.bundlesOf entityType).find? (·.id == bundle)).map (·.label)).getD bundle

/-- Base fields, then the bundle's own. -/
def fieldsOf (s : Schema) (entityType bundle : String) : List Field :=
  s.baseFieldsOf entityType ++ s.ownFieldsOf entityType bundle

def field? (s : Schema) (entityType bundle name : String) : Option Field :=
  (s.fieldsOf entityType bundle).find? (·.name == name)

/-- A field of the name in any bundle: base fields first, then bundles in order. -/
def anyField? (s : Schema) (entityType name : String) : Option Field :=
  let own := ((s.bundleFields.get? entityType).map (·.values.flatten)).getD []
  (s.baseFieldsOf entityType ++ own).find? (·.name == name)

def insertEntityType (s : Schema) (t : EntityType) : Schema :=
  { s with entityTypes := s.entityTypes.insert t.id t }

def insertBundle (s : Schema) (entityType : String) (b : Bundle) : Schema :=
  { s with bundles := s.bundles.update entityType fun l => replaceAtEnd Bundle.id b (l.getD []) }

def insertField (s : Schema) (entityType bundle : String) (f : Field) : Schema :=
  if f.base then
    { s with baseFields :=
        s.baseFields.update entityType fun l => replaceAtEnd Field.name f (l.getD []) }
  else
    { s with bundleFields := s.bundleFields.update entityType fun m =>
        (m.getD .empty).update bundle fun l => replaceAtEnd Field.name f (l.getD []) }

/-- Removes a field from one bundle, and from the base fields of the type. -/
def removeField (s : Schema) (entityType bundle name : String) : Schema :=
  let keep := fun (l : List Field) => l.filter (·.name != name)
  { s with
    baseFields := match s.baseFields.get? entityType with
      | some l => s.baseFields.insert entityType (keep l)
      | none => s.baseFields
    bundleFields := match s.bundleFields.get? entityType with
      | some m => match m.get? bundle with
        | some l => s.bundleFields.insert entityType (m.insert bundle (keep l))
        | none => s.bundleFields
      | none => s.bundleFields }

end Schema

end SynonymLookup
