import SynonymLookup.Wording.Choice

/-! Lookups over all configurations of a bundle: the synonyms of an entity, the entities
of a synonym, and entities by label or synonym. A provider that fails is passed over,
unless its query was badly built. -/

namespace SynonymLookup

/-- Which bundles a lookup covers. -/
inductive BundleFilter where
  | any
  | one (bundle : String)
  | many (bundles : List String)
deriving DecidableEq, Repr

namespace BundleFilter

def accepts : BundleFilter → String → Bool
  | any, _ => true
  | one b, bundle => b == bundle
  | many bs, bundle => bs.contains bundle

/-- `null` is every bundle, a string one, a list several. -/
def ofJson? : Json → Option BundleFilter
  | .null => some any
  | .string b => some (one b)
  | j => j.strings?.map many

end BundleFilter

namespace Lookup

open Service

/-- The bundles of a type, the type itself where there are none. -/
def bundles (s : Schema) (entityType : String) : List String :=
  match s.bundleIds entityType with
  | [] => [entityType]
  | ids => ids

/-- The first occurrences, in order. -/
def distinct {α : Type} [BEq α] (l : List α) : List α :=
  (l.foldl (fun seen a => if seen.contains a then seen else a :: seen) []).reverse

/-- The synonyms of an entity from each configuration that has a provider. -/
def gathered (s : Service) (e : Entity) (configurations : List Configuration) : List String :=
  configurations.flatMap fun c =>
    match c.provider s.registry s.schema with
    | .ok p => p.synonyms s.backend e
    | .error _ => []

/-- All synonyms of an entity in configuration order, each once. -/
def entitySynonyms (e : Entity) : Action (List String) := do
  let configurations ← Repository.loadFor e.entityType e.bundle
  return distinct (gathered (← get) e configurations)

/-- The configurations of several bundles, one bundle after the other. -/
def loadForEach (entityType : String) : List String → Action (List Configuration)
  | [] => return []
  | bundle :: rest => do
    let found ← Repository.loadFor entityType bundle
    return found ++ (← loadForEach entityType rest)

def configurations (entityType : String) : BundleFilter → Action (List Configuration)
  | .one bundle => Repository.loadFor entityType bundle
  | .many bundles => loadForEach entityType bundles
  | .any => do
    return (← Repository.loadAll).filter fun c =>
      c.pluginId?.any fun p => p.entityType == entityType

/-- What the provider of a configuration finds, or why it fails. -/
def search (c : Configuration) (condition : Condition) : Action (List SynonymResult) := do
  let p ← Repository.provider c
  onBackend (p.find condition)

/-- What one configuration contributes: nothing if its search fails, but the error of a badly built
query. -/
def findIn (c : Configuration) (condition : Condition) : Action (List SynonymResult) :=
  tryCatch (search c condition) fun e => if e.isQueryDefect then throw e else return []

/-- Searches every configuration, whatever the others give. -/
def findInEach (condition : Condition) :
    List Configuration → Action (List (Except LookupError (List SynonymResult)))
  | [] => return []
  | c :: rest => do
    let outcome ← observing (findIn c condition)
    return outcome :: (← findInEach condition rest)
where
  observing (step : Action (List SynonymResult)) :
      Action (Except LookupError (List SynonymResult)) :=
    tryCatch (do return .ok (← step)) fun e => return .error e

/-- The results in order, or the first error. -/
def joined : List (Except LookupError (List SynonymResult)) →
    Except LookupError (List SynonymResult)
  | [] => return []
  | outcome :: rest => do
    let found ← outcome
    return found ++ (← joined rest)

/-- The pairs that meet a condition, from the configurations of one bundle or of all. -/
def findSynonyms (condition : Condition) (entityType : String) (bundle : Option String) :
    Action (List SynonymResult) := do
  let _ ← Service.entityType entityType
  let every := bundles (← get).schema entityType
  let covered := match bundle with
    | some b => [b]
    | none => every
  let configurations ← loadForEach entityType covered
  ofExcept (joined (← findInEach condition configurations))

/-- The condition that the label is a name, within a bundle where one is asked for and the type has
bundles. -/
def labelCondition (t : EntityType) (label name : String) (within : Option (Operator × Json)) :
    Condition :=
  let named := Condition.onColumn label .equal (.string name)
  match t.keys.bundle, within with
  | some key, some (operator, value) => .and [named, Condition.onColumn key operator value]
  | _, _ => named

/-- The entities labelled by a name. -/
def labelled (t : EntityType) (entityType name : String) (within : Option (Operator × Json)) :
    Action (List EntityId) := do
  match t.labelColumn with
  | none => return []
  | some label =>
    let rows ← onBackend (Backend.execute
      { entityType, condition := labelCondition t label name within })
    return rows.map (·.entityId)

/-- The entities whose label or synonym is a name; labels come first, each entity once. -/
def byName (entityType name : String) (bundle : Option String) : Action (List EntityId) := do
  let t ← Service.entityType entityType
  let byLabel ← labelled t entityType name (bundle.map fun b => (.equal, .string b))
  let found ← findSynonyms (Condition.onSynonym .equal (.string name)) entityType bundle
  return distinct (byLabel ++ found.map (·.entityId))

end Lookup
end SynonymLookup
