import SynonymLookup.Lookup

/-! Search indexing: the synonyms of referenced entities as text for the index entry of an entity,
the tags that text depends on, and which entities to index anew when referenced ones change. -/

namespace SynonymLookup

structure IndexFragment where
  text : String := ""
  /-- Invalidating one of these makes the text stale. -/
  cacheTags : List String := []
deriving DecidableEq, Repr

def IndexFragment.toJson (f : IndexFragment) : Json := Json.ofFields [
  ("text", .string f.text), ("cache_tags", Json.ofStrings f.cacheTags)]

namespace SearchIndex

open Service

/-- The target type of a reference field to content entities. -/
def contentTarget? (s : Schema) (f : Field) : Option String := do
  let t ← f.targetType
  let definition ← s.entityType? t
  if definition.content then return t else none

/-- Synonyms and tags gathered so far. -/
structure Gathered where
  synonyms : List String := []
  tags : List String := []

/-- Adds the referenced entities; one without search switched on gives its tags only. -/
def addTargets : Gathered → List Entity → Action Gathered
  | g, [] => return g
  | g, e :: rest => do
    let enabled ← Behaviors.isEnabled Behavior.search.id e.entityType e.bundle
    let found ← if enabled then Lookup.entitySynonyms e else pure []
    addTargets ⟨g.synonyms ++ found, g.tags ++ [e.cacheTag, bundleTag e.entityType e.bundle]⟩ rest

/-- Adds the targets of each field, a target once for each field. -/
def addFields (e : Entity) : Gathered → List Field → Action Gathered
  | g, [] => return g
  | g, f :: rest => do
    match contentTarget? (← get).schema f with
    | none => addFields e g rest
    | some targetType =>
      let ids := e.referencedIds f.name
      if ids.isEmpty then addFields e g rest
      else
        let targets ← ask fun b => b.loadAll targetType ids
        let g ← addTargets g
          ((Lookup.distinct ids).filterMap fun id => targets.get? id.text)
        addFields e g rest

/-- The fragment of an entity. Its own synonyms are not part of it. -/
def fragment (e : Entity) : Action IndexFragment := do
  let fields := (← get).schema.fieldsOf e.entityType e.bundle
  let g ← addFields e {} fields
  return ⟨", ".intercalate g.synonyms, Lookup.distinct g.tags⟩

/-- The reference fields of content types that lead to a type, by host type and field name. -/
def hostFields (s : Schema) (targetType : String) : List (String × String) :=
  let each := (s.entityTypes.values.filter EntityType.content).map fun t =>
    let fields := (s.bundleIds t.id).flatMap fun b =>
      (s.fieldsOf t.id b).filter fun f => f.targetType == some targetType
    (t.id, KeyMap.ofList (fields.map fun f => (f.name, ())))
  each.flatMap fun (host, names) => names.keys.map fun n => (host, n)

/-- Marks the hosts found through each field and adds up how many rows there were. -/
def markHosts (targets : Json) : List (String × String) → Action Nat
  | [] => return 0
  | (host, field) :: rest => do
    let rows ← onBackend (Backend.execute {
      entityType := host,
      condition := Condition.onColumn (field ++ "." ++ targetIdProperty) .isIn targets })
    if !rows.isEmpty then onBackend (Backend.mark host (rows.map (·.entityId)))
    return rows.length + (← markHosts targets rest)

/-- Flags the entities that reference one of the ids, and tells how many times one was found. -/
def markForReindex (targetType : String) (ids : List EntityId) : Action Nat := do
  if ids.isEmpty then return 0
  markHosts (.array (ids.map EntityId.toJson)) (hostFields (← get).schema targetType)

end SearchIndex
end SynonymLookup
