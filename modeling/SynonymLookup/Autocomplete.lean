import SynonymLookup.Digest.Sha256
import SynonymLookup.Lookup

/-! Autocomplete: entities whose label matches a keyword and, as far as room is left, entities with
a matching synonym. Settings of a widget are registered under a key made of their digest. -/

namespace SynonymLookup

structure AutocompleteSettings where
  targetType : String
  /-- Empty for every bundle. -/
  targetBundles : List String := []
  mode : MatchMode := .contains
  size : Nat := 10
  /-- Suggest each entity at most once. -/
  onlyUnique : Bool := false
deriving DecidableEq, Repr

namespace AutocompleteSettings

def keyHead : String := "synonyms_entity_autocomplete."

def ofJson? (j : Json) : Option AutocompleteSettings := do
  let r ← j.record?
    ["target_type", "target_bundles", "match", "suggestion_size", "suggest_only_unique"]
  return {
    targetType := ← r.required "target_type" Json.string?
    targetBundles := ← r.withDefault "target_bundles" Json.strings? []
    mode := ← r.withDefault "match" MatchMode.ofJson? .contains
    size := ← r.withDefault "suggestion_size" Json.natural? 10
    onlyUnique := ← r.withDefault "suggest_only_unique" Json.bool? false }

/-- The written fields in the order that the digest is made of. -/
def toFields (s : AutocompleteSettings) : List (String × Json) := [
  ("target_type", .string s.targetType),
  ("target_bundles", Json.ofStrings s.targetBundles),
  ("match", s.mode.toJson),
  ("suggestion_size", Json.ofNat s.size),
  ("suggest_only_unique", .bool s.onlyUnique)]

def toJson (s : AutocompleteSettings) : Json := Json.ofFields s.toFields

/-- Equal settings have equal keys. -/
def key (s : AutocompleteSettings) : String :=
  keyHead ++ Sha256.ofText (Json.object s.toFields).compact

instance : Stored AutocompleteSettings where
  ofJson? := ofJson?
  toJson := toJson

end AutocompleteSettings

structure Suggestion where
  entityId : EntityId
  entityLabel : String
  wording : String
  /-- Absent where the label matched. -/
  synonym : Option String
deriving DecidableEq, Repr

/-- A missing synonym is left out. -/
def Suggestion.toJson (s : Suggestion) : Json := Json.ofFields
  ([("entity_id", s.entityId.toJson), ("entity_label", .string s.entityLabel),
    ("wording", .string s.wording)] ++
    (s.synonym.map fun t => ("synonym", Json.string t)).toList)

namespace Autocomplete

open Service

/-- Stores settings and gives the key to look them up by. -/
def register (settings : AutocompleteSettings) : Action String := do
  setStored settings.key settings
  return settings.key

def settings (key : String) : Action (Option AutocompleteSettings) :=
  getStored AutocompleteSettings key

/-- A matching synonym, found through a configuration. -/
structure Match where
  entityId : EntityId
  synonym : String
  configuration : Configuration

/-- The bundles in which synonyms are looked for. -/
def targetBundles (s : AutocompleteSettings) (schema : Schema) : List String :=
  if s.targetBundles.isEmpty then Lookup.bundles schema s.targetType else s.targetBundles

/-- The configurations of those bundles that have autocomplete switched on. -/
def enabledConfigurations (targetType : String) : List String → Action (List Configuration)
  | [] => return []
  | bundle :: rest => do
    let found ← if ← Behaviors.isEnabled Behavior.autocomplete.id targetType bundle then
        Lookup.configurations targetType (.one bundle)
      else pure []
    return found ++ (← enabledConfigurations targetType rest)

/-- Matches taken so far, and the entities that must not be suggested again. -/
structure Taken where
  found : List Match := []
  suggested : List EntityId := []

/-- Takes results until the room is filled, leaving out entities suggested before. -/
def take (unique : Bool) (c : Configuration) :
    (room : Nat) → Taken → List SynonymResult → Taken
  | 0, t, _ => t
  | _, t, [] => t
  | room + 1, t, r :: rest =>
    if t.suggested.contains r.entityId then take unique c (room + 1) t rest
    else
      let suggested := if unique then t.suggested ++ [r.entityId] else t.suggested
      take unique c room ⟨t.found ++ [⟨r.entityId, r.synonym, c⟩], suggested⟩ rest

/-- The search for a keyword, without the entities suggested before. -/
def condition (s : AutocompleteSettings) (keyword : String) (suggested : List EntityId) :
    Condition :=
  let c : Condition := .and [Condition.onSynonym .like (.string (s.mode.pattern keyword))]
  if suggested.isEmpty then c
  else c.push (Condition.onEntityId .notIn (.array (suggested.map EntityId.toJson)))

/-- Searches one configuration after the other as long as there is room for `room` matches. -/
def matchAll (s : AutocompleteSettings) (keyword : String) (room : Nat) :
    Taken → List Configuration → Action Taken
  | t, [] => return t
  | t, c :: rest => do
    if room ≤ t.found.length then return t
    let results ← Lookup.findIn c (condition s keyword t.suggested)
    matchAll s keyword room (take s.onlyUnique c (room - t.found.length) t results) rest

/-- The suggestions of matches. Entities that have gone, and configurations without a provider, give
none. -/
def presented (entities : KeyMap Entity) : List Match → Action (List Suggestion)
  | [] => return []
  | m :: rest => do
    let s ← get
    match entities.get? m.entityId.text, m.configuration.provider s.registry s.schema with
    | some e, .ok _ =>
      let wording ← Wording.present m.synonym e m.configuration Behavior.autocomplete.id
      return ⟨m.entityId, e.labelText, wording, some m.synonym⟩ :: (← presented entities rest)
    | _, _ => presented entities rest

/-- The suggestion of a label match. -/
def ofLabel (r : Referenceable) : Suggestion := ⟨r.id, r.label, r.label, none⟩

/-- Suggestions for a keyword, never more than the size asked for. -/
def suggest (keyword : String) (s : AutocompleteSettings) : Action (List Suggestion) := do
  if s.size = 0 then return []
  let byLabel ← ask fun b => b.select {
    targetType := s.targetType, bundles := s.targetBundles, keyword, mode := s.mode,
    limit := s.size }
  let suggested := if s.onlyUnique then byLabel.map (·.id) else []
  let configurations ← if byLabel.length < s.size then
      enabledConfigurations s.targetType (targetBundles s (← get).schema)
    else pure []
  let taken ← matchAll s keyword (s.size - byLabel.length) ⟨[], suggested⟩ configurations
  let ids := Lookup.distinct (taken.found.map (·.entityId))
  let entities ← if ids.isEmpty then pure .empty else ask fun b => b.loadAll s.targetType ids
  return byLabel.map ofLabel ++ (← presented entities taken.found)

/-- Suggestions under registered settings. -/
def lookup (keyword key : String) : Action (List Suggestion) := do
  match ← settings key with
  | some s => suggest keyword s
  | none => throw (.configurationNotFound key)

end Autocomplete
end SynonymLookup
