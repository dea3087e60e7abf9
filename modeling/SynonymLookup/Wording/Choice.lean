import SynonymLookup.Behavior.Settings
import SynonymLookup.Configuration.Repository

/-! Which template presents a synonym: of the wordings that count, the first that is not empty. -/

namespace SynonymLookup

/-- Settings that hold for all lookups. -/
structure ModuleSettings where
  wordingType : WordingType := .none
deriving DecidableEq, Repr, Inhabited

namespace ModuleSettings

def key : String := "synonyms.settings"

def ofJson? (j : Json) : Option ModuleSettings := do
  let r ← j.record? ["wording_type"]
  return { wordingType := ← r.withDefault "wording_type" WordingType.ofJson? .none }

def toJson (s : ModuleSettings) : Json := Json.ofFields [("wording_type", s.wordingType.toJson)]

instance : Stored ModuleSettings where
  ofJson? := ofJson?
  toJson := toJson

end ModuleSettings

namespace Wording

open Service

def settings : Action ModuleSettings := do
  return (← getStored ModuleSettings ModuleSettings.key).getD {}

def saveSettings (s : ModuleSettings) : Action Unit := setStored ModuleSettings.key s

/-- The wording of a behavior for the bundle a configuration controls. -/
def behaviorWording (c : Configuration) (behavior : String) : Action String := do
  match c.pluginId? with
  | none => return ""
  | some p =>
    return ((← Behaviors.setting behavior p.entityType p.bundle).map (·.wording)).getD ""

/-- The template for a configuration under a wording type. Wordings are read only as far as those
before them are empty. -/
def template (c : Configuration) (behavior : String) (wordingType : WordingType) :
    Action String := do
  if wordingType = .none then return fallback
  let own := if wordingType.usesProvider then c.settings.wording else ""
  if !own.isEmpty then return own
  let forBundle ← if wordingType.usesBehavior then behaviorWording c behavior else pure ""
  if !forBundle.isEmpty then return forBundle
  let general := (← Behaviors.defaults behavior).wording
  if !general.isEmpty then return general
  return fallback

/-- The labels of the field and the bundle a configuration is bound to; names where labels have
gone. -/
def boundLabels (c : Configuration) (e : Entity) (s : Schema) : String × String :=
  match c.pluginId? with
  | some p => (((s.field? p.entityType p.bundle p.field).map (·.label)).getD p.field,
      s.bundleLabel p.entityType p.bundle)
  | none => ("", e.bundle)

/-- A synonym as a behavior shows it. -/
def present (synonym : String) (e : Entity) (c : Configuration) (behavior : String) :
    Action String := do
  let wordingType := (← settings).wordingType
  if wordingType = .none then return synonym
  let chosen ← template c behavior wordingType
  let (fieldLabel, bundleLabel) := boundLabels c e (← get).schema
  return render chosen { synonym, entityLabel := e.labelText, fieldLabel, bundleLabel }

end Wording
end SynonymLookup
