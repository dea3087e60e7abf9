import SynonymLookup.Service.Basic
import SynonymLookup.Wording.Template

/-! The settings of behaviors, stored for each bundle, and the form that edits those of all
behaviors at once. A bundle without a stored setting is switched off. -/

namespace SynonymLookup
namespace Behaviors

open Service

def register (b : Behavior) : Action Unit :=
  modify fun s => { s with behaviors := replaceAtEnd Behavior.id b s.behaviors }

def find? (id : String) : Action (Option Behavior) := do
  return (← get).behaviors.find? fun b => b.id == id

def require (id : String) : Action Behavior := do
  match ← find? id with
  | some b => return b
  | none => throw (.ofElement "behavior" ("unknown behavior " ++ id))

def setting (id entityType bundle : String) : Action (Option BehaviorSetting) :=
  getStored BehaviorSetting (Behavior.settingKey id entityType bundle)

def saveSetting (id entityType bundle : String) (setting : BehaviorSetting) : Action Unit := do
  let _ ← require id
  setStored (Behavior.settingKey id entityType bundle) setting
  invalidateTag (bundleTag entityType bundle)

def deleteSetting (id entityType bundle : String) : Action Unit := do
  deleteBlob (Behavior.settingKey id entityType bundle)
  invalidateTag (bundleTag entityType bundle)

/-- Whether a behavior is on for a bundle. A status that cannot be read counts as off. -/
def isEnabled (id entityType bundle : String) : Action Bool := do
  let status ← getProperty (Behavior.settingKey id entityType bundle) "status"
  return (status.bind Json.flag?).getD false

def defaults (id : String) : Action BehaviorDefaults := do
  return (← getStored BehaviorDefaults (Behavior.defaultsKey id)).getD {}

def saveDefaults (id : String) (defaults : BehaviorDefaults) : Action Unit := do
  let _ ← require id
  setStored (Behavior.defaultsKey id) defaults

def statusKey (b : Behavior) : String := b.id ++ ".status"

def wordingKey (b : Behavior) : String := b.id ++ ".wording"

/-- The elements of one behavior: its switch and, for a widget, its wording where those count. -/
def elements (b : Behavior) (s : BehaviorSetting) (wordingType : WordingType) :
    List FormElement :=
  FormElement.checkbox (statusKey b) (b.title ++ " service") s.status ::
  match b.widgetTitle with
  | some widget =>
    if wordingType.usesBehavior then
      [.withDescription (.textfield (wordingKey b) (widget ++ " widget wording:") s.wording)
        ("Specify the wording with which " ++ widget ++
          " widget suggestions should be presented. " ++
          "Available replacement tokens are: " ++ Wording.tokensHelp ++
          " If this field is left empty the " ++ widget ++
          " widget default wording will be used.")]
    else []
  | none => []

def formOf (entityType bundle : String) (wordingType : WordingType) :
    List Behavior → Action (List FormElement)
  | [] => return []
  | b :: rest => do
    let s := (← setting b.id entityType bundle).getD {}
    return elements b s wordingType ++ (← formOf entityType bundle wordingType rest)

def form (entityType bundle : String) (wordingType : WordingType) : Action (List FormElement) := do
  formOf entityType bundle wordingType (← get).behaviors

/-- The setting submitted for a behavior, or the first complaint about it. -/
def submitted (b : Behavior) (fields : List (String × Json)) :
    Except FormError BehaviorSetting := do
  let status ← match KeyMap.findEntry (statusKey b) fields with
    | none => pure false
    | some j => match j.flag? with
      | some flag => pure flag
      | none => throw ⟨statusKey b, "must be a boolean"⟩
  match KeyMap.findEntry (wordingKey b) fields with
  | none | some .null => return ⟨status, ""⟩
  | some (.string wording) => return ⟨status, wording⟩
  | some _ => throw ⟨wordingKey b, "must be a string"⟩

def complaints (behaviors : List Behavior) (fields : List (String × Json)) : List FormError :=
  behaviors.filterMap fun b => match submitted b fields with
    | .error e => some e
    | .ok _ => none

def saveAll (entityType bundle : String) : List (Behavior × BehaviorSetting) → Action Unit
  | [] => return ()
  | (b, s) :: rest => do
    saveSetting b.id entityType bundle s
    saveAll entityType bundle rest

/-- Saves the submitted settings of all behaviors, or none where some value is refused. -/
def submit (entityType bundle : String) (values : Json) : Action Unit := do
  match values with
  | .object fields =>
    let behaviors := (← get).behaviors
    let errors := complaints behaviors fields
    if !errors.isEmpty then throw (.validation errors)
    saveAll entityType bundle <| behaviors.filterMap fun b =>
      (submitted b fields).toOption.map fun s => (b, s)
  | _ => throw (.ofElement "" "form values must be an object")

end Behaviors
end SynonymLookup
