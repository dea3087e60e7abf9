import SynonymLookup.Json.Record

/-! Content entities: multi-valued fields whose items are small property maps, and the texts that
can be read from them. -/

namespace SynonymLookup

/-- An identifier within an entity type. Numbers and strings are both kept as text, so that ids from
storage, from rows and from option values compare equal. -/
structure EntityId where
  text : String
deriving DecidableEq, Repr, Inhabited

namespace EntityId

def ofJson : Json → EntityId
  | .string s => ⟨s⟩
  | other => ⟨other.text?.getD ""⟩

/-- Every value will do. -/
def ofJson? (j : Json) : Option EntityId := some (ofJson j)

def toJson (id : EntityId) : Json := .string id.text

end EntityId

/-- The properties of one item of a field. -/
abbrev Item := KeyMap Json

namespace Item

/-- Every property is null or an empty string. -/
def isBlank (item : Item) : Bool :=
  item.values.all fun
    | .null => true
    | .string s => s.isEmpty
    | _ => false

def single (property : String) (value : Json) : Item := KeyMap.empty.insert property value

def ofJson? (j : Json) : Option Item := j.map? Json.any?

def toJson (item : Item) : Json := Json.ofMap id item

end Item

/-- The property with the scalar of most simple fields. -/
def valueProperty : String := "value"

/-- The property with the referenced id of an entity reference. -/
def targetIdProperty : String := "target_id"

structure Entity where
  entityType : String
  bundle : String
  id : EntityId
  label : Option String := none
  fields : KeyMap (List Item) := .empty
deriving Inhabited

namespace Entity

/-- The label, empty for an entity without one. -/
def labelText (e : Entity) : String := e.label.getD ""

/-- The items of a field, none if the field is absent. -/
def items (e : Entity) (field : String) : List Item := (e.fields.get? field).getD []

/-- The text of a property in every item that is not blank. -/
def propertyTexts (e : Entity) (field property : String) : List String :=
  ((e.items field).filter fun i => !i.isBlank).filterMap fun i => (i.get? property).bind Json.text?

def referencedIds (e : Entity) (field : String) : List EntityId :=
  (e.propertyTexts field targetIdProperty).map EntityId.mk

def cacheTag (e : Entity) : String := e.entityType ++ ":" ++ e.id.text

def withItems (e : Entity) (field : String) (items : List Item) : Entity :=
  { e with fields := e.fields.insert field items }

def withValues (e : Entity) (field : String) (values : List Json) : Entity :=
  e.withItems field (values.map (Item.single valueProperty))

def withReferences (e : Entity) (field : String) (targets : List EntityId) : Entity :=
  e.withItems field (targets.map fun t => Item.single targetIdProperty t.toJson)

def fieldNames : List String := ["entity_type", "bundle", "id", "label", "fields"]

def shape : Json.Shape := .ofNames fieldNames

def ofJson? (j : Json) : Option Entity := do
  let r ← j.record? fieldNames
  return {
    entityType := ← r.required "entity_type" Json.string?
    bundle := ← r.required "bundle" Json.string?
    id := ← r.required "id" EntityId.ofJson?
    label := ← r.optional "label" Json.string?
    fields := ← r.withDefault "fields" (Json.map? (Json.list? Item.ofJson?)) .empty }

def toJson (e : Entity) : Json := Json.ofFields [
  ("entity_type", .string e.entityType),
  ("bundle", .string e.bundle),
  ("id", e.id.toJson),
  ("label", Json.ofOption .string e.label),
  ("fields", Json.ofMap (fun items => .array (items.map Item.toJson)) e.fields)]

instance : JsonForm Entity := ⟨ofJson?, toJson⟩

end Entity

/-- An entity and one of its synonyms, as a search finds them. -/
structure SynonymResult where
  entityId : EntityId
  synonym : String
deriving DecidableEq, Repr

namespace SynonymResult

def ofJson? (j : Json) : Option SynonymResult := do
  let r ← j.record? ["entity_id", "synonym"]
  return {
    entityId := ← r.required "entity_id" EntityId.ofJson?
    synonym := ← r.required "synonym" Json.string? }

def toJson (s : SynonymResult) : Json := Json.ofFields [
  ("entity_id", s.entityId.toJson), ("synonym", .string s.synonym)]

instance : JsonForm SynonymResult := ⟨ofJson?, toJson⟩

/-- By id, then by synonym. -/
def le (a b : SynonymResult) : Bool :=
  a.entityId.text < b.entityId.text || (a.entityId == b.entityId && a.synonym ≤ b.synonym)

/-- Drops each result that equals the one before it. -/
def dropRepeats : List SynonymResult → List SynonymResult
  | a :: b :: rest => if a = b then dropRepeats (b :: rest) else a :: dropRepeats (b :: rest)
  | short => short

def sorted (l : List SynonymResult) : List SynonymResult := dropRepeats (l.mergeSort le)

end SynonymResult

end SynonymLookup
