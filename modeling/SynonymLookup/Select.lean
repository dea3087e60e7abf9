import SynonymLookup.Lookup

/-! Options of a select element: each entity under its label, followed by its synonyms. The value of
a synonym option is the id, a colon and the synonym. -/

namespace SynonymLookup

/-- An option's value: an id, with a synonym behind the first colon. -/
structure OptionValue where
  entityId : EntityId
  synonym : Option String
deriving DecidableEq, Repr

namespace OptionValue

def encode (v : OptionValue) : String :=
  match v.synonym with
  | some s => v.entityId.text ++ ":" ++ s
  | none => v.entityId.text

def decode (s : String) : OptionValue :=
  match Text.cut ':' s with
  | some (id, synonym) => ⟨⟨id⟩, some synonym⟩
  | none => ⟨⟨s⟩, none⟩

/-- The entities behind submitted values, each once; empty values stand for none. -/
def selectedIds (values : List String) : List EntityId :=
  Lookup.distinct ((values.filter fun v => !v.isEmpty).map fun v => (decode v).entityId)

end OptionValue

/-- A synonym with its presentation. -/
structure SynonymWording where
  synonym : String
  wording : String
deriving DecidableEq, Repr

def SynonymWording.toJson (w : SynonymWording) : Json := Json.ofFields [
  ("synonym", .string w.synonym), ("wording", .string w.wording)]

structure SelectOption where
  value : String
  label : String
deriving DecidableEq, Repr

def SelectOption.toJson (o : SelectOption) : Json := Json.ofFields [
  ("value", .string o.value), ("label", .string o.label)]

structure OptionGroup where
  label : String
  options : List SelectOption
deriving DecidableEq, Repr

def OptionGroup.toJson (g : OptionGroup) : Json := Json.ofFields [
  ("label", .string g.label), ("options", .array (g.options.map SelectOption.toJson))]

/-- Options without groups where there is one group only. -/
inductive SelectOptions where
  | flat (options : List SelectOption)
  | grouped (groups : List OptionGroup)
deriving DecidableEq, Repr

namespace SelectOptions

def ofGroups : List OptionGroup → SelectOptions
  | [g] => flat g.options
  | groups => grouped groups

/-- Every option in display order. -/
def options : SelectOptions → List SelectOption
  | flat options => options
  | grouped groups => groups.flatMap OptionGroup.options

def toJson : SelectOptions → Json
  | flat options => .array (options.map SelectOption.toJson)
  | grouped groups => .array (groups.map OptionGroup.toJson)

end SelectOptions

namespace Select

open Service

/-- Presents the synonyms of one entity. -/
def presentAll (c : Configuration) (e : Entity) : List String → Action (List SynonymWording)
  | [] => return []
  | s :: rest => do
    let wording ← Wording.present s e c Behavior.select.id
    return ⟨s, wording⟩ :: (← presentAll c e rest)

/-- Adds the synonyms from one configuration to those of each entity. -/
def addEach (c : Configuration) (entities : KeyMap Entity) :
    KeyMap (List SynonymWording) → List (String × List String) →
      Action (KeyMap (List SynonymWording))
  | found, [] => return found
  | found, (id, synonyms) :: rest => do
    match entities.get? id with
    | none => addEach c entities found rest
    | some e =>
      let wordings ← presentAll c e synonyms
      addEach c entities (found.update id fun l => l.getD [] ++ wordings) rest

/-- Goes through the configurations; one without a provider is passed over. -/
def addFrom (entities : KeyMap Entity) :
    KeyMap (List SynonymWording) → List Configuration → Action (KeyMap (List SynonymWording))
  | found, [] => return found
  | found, c :: rest => do
    let s ← get
    match c.provider s.registry s.schema with
    | .error _ => addFrom entities found rest
    | .ok p =>
      let synonyms ← ofExcept (p.synonymsOfAll s.backend entities)
      let found ← addEach c entities found synonyms.entries
      addFrom entities found rest

/-- The synonyms of entities of one bundle with their presentation. Each entity has an entry, empty
where select is switched off. -/
def synonymsOfAll (entities : KeyMap Entity) : Action (KeyMap (List SynonymWording)) := do
  let start : KeyMap (List SynonymWording) := entities.map fun _ => []
  match entities.values with
  | [] => return start
  | first :: _ =>
    ofExcept (ensureSingleBundle entities.values)
    if ← Behaviors.isEnabled Behavior.select.id first.entityType first.bundle then
      let configurations ← Lookup.configurations first.entityType (.one first.bundle)
      addFrom entities start configurations
    else return start

/-- The selected entities by bundle, in the order in which bundles appear. -/
def byBundle (l : List Referenceable) : List (String × List Referenceable) :=
  (Lookup.distinct (l.map (·.bundle))).map fun b => (b, l.filter fun r => r.bundle == b)

/-- Options of a repeated value are left out after the first. -/
def distinctOptions (l : List SelectOption) : List SelectOption :=
  (l.foldl (fun kept o =>
    if kept.any fun k => k.value == o.value then kept else o :: kept) []).reverse

/-- The options of one bundle; an entity listed again has no synonyms the second time. -/
def optionsOf (members : List Referenceable) (synonyms : KeyMap (List SynonymWording)) :
    List SelectOption :=
  let every := members.flatMap fun r =>
    ⟨OptionValue.encode ⟨r.id, none⟩, r.label⟩ ::
      ((synonyms.get? r.id.text).getD []).map fun w =>
        ⟨OptionValue.encode ⟨r.id, some w.synonym⟩, w.wording⟩
  distinctOptions every

/-- One group for each bundle. An entity counts for the first bundle that lists it. -/
def groups (targetType : String) :
    KeyMap Entity → List (String × List Referenceable) → Action (List OptionGroup)
  | _, [] => return []
  | loaded, (bundle, members) :: rest => do
    let mine := loaded.filter fun id _ => members.any fun r => r.id.text == id
    let others := loaded.filter fun id _ => !members.any fun r => r.id.text == id
    let synonyms ← synonymsOfAll mine
    let label := (← get).schema.bundleLabel targetType bundle
    return ⟨label, optionsOf members synonyms⟩ :: (← groups targetType others rest)

/-- Options for all entities of a type, or of some of its bundles. -/
def options (targetType : String) (targetBundles : List String) : Action SelectOptions := do
  let members ← ask fun b => b.select { targetType, bundles := targetBundles }
  let ids := (byBundle members).flatMap fun g => g.2.map (·.id)
  let loaded ← if ids.isEmpty then pure .empty else ask fun b => b.loadAll targetType ids
  return .ofGroups (← groups targetType loaded (byBundle members))

end Select
end SynonymLookup
