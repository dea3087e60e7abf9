import SynonymLookup.Json.Printer
import SynonymLookup.Json.Record
import SynonymLookup.Settings.Blobs

/-! Behaviors: consumers that are switched on for each bundle, each with a wording for the bundle
and a default wording of its own. -/

namespace SynonymLookup

structure Behavior where
  id : String
  title : String
  /-- Set for a behavior behind a form widget. -/
  widgetTitle : Option String := none
deriving DecidableEq, Repr

namespace Behavior

def autocomplete : Behavior where
  id := "autocomplete"
  title := "Autocomplete"
  widgetTitle := some "Synonyms-friendly autocomplete"

def select : Behavior where
  id := "select"
  title := "Select"
  widgetTitle := some "Synonyms-friendly select"

def search : Behavior where
  id := "search"
  title := "Search"

def builtin : List Behavior := [autocomplete, select, search]

def isWidget (b : Behavior) : Bool := b.widgetTitle.isSome

def settingKey (behavior entityType bundle : String) : String :=
  "synonyms_" ++ behavior ++ ".behavior." ++ entityType ++ "." ++ bundle

def defaultsKey (behavior : String) : String := "synonyms_" ++ behavior ++ ".settings"

def toJson (b : Behavior) : Json := Json.ofFields [
  ("id", .string b.id), ("title", .string b.title),
  ("widget_title", Json.ofOption .string b.widgetTitle)]

end Behavior

/-- A status as a flag: booleans, and natural numbers where only zero means off. -/
def Json.flag? : Json → Option Bool
  | .bool b => some b
  | .number n => n.natural?.map fun n => n != 0
  | _ => none

/-- The switch and wording of a behavior for one bundle. -/
structure BehaviorSetting where
  status : Bool := false
  wording : String := ""
deriving DecidableEq, Repr, Inhabited

namespace BehaviorSetting

def ofJson? (j : Json) : Option BehaviorSetting := do
  let r ← j.record? ["status", "wording"]
  return {
    status := ← r.withDefault "status" Json.flag? false
    wording := ← r.withDefault "wording" Json.string? "" }

def toJson (s : BehaviorSetting) : Json := Json.ofFields [
  ("status", .bool s.status), ("wording", .string s.wording)]

/-- The status, readable or not. -/
def status? : Json → Option Json
  | .array items => items.head?
  | j => j.field? "status"

/-- An unreadable status is what is complained about. -/
def complaint? (j : Json) : Option String :=
  match status? j with
  | some status =>
    if status.flag?.isNone then
      some ("invalid status " ++ status.compact ++ ", expected a boolean or 0/1")
    else none
  | none => none

instance : Stored BehaviorSetting where
  ofJson? := ofJson?
  toJson := toJson
  complaint? := complaint?

end BehaviorSetting

/-- What a behavior uses where a bundle says nothing. -/
structure BehaviorDefaults where
  wording : String := ""
deriving DecidableEq, Repr, Inhabited

namespace BehaviorDefaults

def ofJson? (j : Json) : Option BehaviorDefaults := do
  let r ← j.record? ["default_wording"]
  return { wording := ← r.withDefault "default_wording" Json.string? "" }

def toJson (d : BehaviorDefaults) : Json := Json.ofFields [("default_wording", .string d.wording)]

instance : Stored BehaviorDefaults where
  ofJson? := ofJson?
  toJson := toJson

end BehaviorDefaults

end SynonymLookup
