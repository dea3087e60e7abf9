import SynonymLookup.Provider.Registry
import SynonymLookup.Settings.Blobs

/-! Configurations: each binds one provider to its settings and controls the bundle its plugin id
names. -/

namespace SynonymLookup

/-- The cache tag of everything configured for one bundle. -/
def bundleTag (entityType bundle : String) : String :=
  "synonyms:" ++ entityType ++ "." ++ bundle

structure Configuration where
  id : String
  plugin : String
  basePlugin : String := ""
  settings : ProviderConfiguration := {}
deriving Inhabited

namespace Configuration

/-- Where configurations are kept among the settings. -/
def keyHead : String := "synonyms.synonym."

/-- A configuration with default settings. Its id is the plugin id with points for colons. -/
def ofPlugin (plugin : String) : Configuration where
  id := Text.replaceChar ':' '.' plugin
  plugin := plugin
  basePlugin := ((Text.cut ':' plugin).map (·.1)).getD plugin

def pluginId? (c : Configuration) : Option PluginId := PluginId.parse? c.plugin

def controls (c : Configuration) (entityType bundle : String) : Bool :=
  c.pluginId?.any fun p => p.entityType == entityType && p.bundle == bundle

def cacheTag? (c : Configuration) : Option String :=
  c.pluginId?.map fun p => bundleTag p.entityType p.bundle

def keyOf (id : String) : String := keyHead ++ id

def key (c : Configuration) : String := keyOf c.id

/-- The label of the provider, the id if the provider has gone. -/
def label (c : Configuration) (r : Registry) (s : Schema) : String :=
  ((r.definition? s c.plugin).map (·.label)).getD c.id

def provider (c : Configuration) (r : Registry) (s : Schema) : Except LookupError Provider :=
  r.create s c.plugin c.settings

def validId (id : String) : Bool :=
  !id.isEmpty && id.toList.all fun c => c.isLower || c.isDigit || c = '_' || c = '.'

/-- Why a configuration cannot be saved. -/
def errors (c : Configuration) (r : Registry) (s : Schema) : List FormError :=
  (if validId c.id then []
    else [⟨"id", "must contain only lowercase letters, digits, underscores and dots"⟩]) ++
  (if (r.definition? s c.plugin).isSome then []
    else [⟨"provider_plugin",
      "provider " ++ c.plugin ++ " is not available for the current fields"⟩])

def ofJson? (j : Json) : Option Configuration := do
  let r ← j.record?
    ["id", "provider_plugin", "base_provider_plugin", "provider_configuration"]
  return {
    id := ← r.required "id" Json.string?
    plugin := ← r.required "provider_plugin" Json.string?
    basePlugin := ← r.withDefault "base_provider_plugin" Json.string? ""
    settings := ← r.withDefault "provider_configuration" ProviderConfiguration.ofJson? {} }

def toJson (c : Configuration) : Json := Json.ofFields [
  ("id", .string c.id),
  ("provider_plugin", .string c.plugin),
  ("base_provider_plugin", .string c.basePlugin),
  ("provider_configuration", c.settings.toJson)]

instance : Stored Configuration where
  ofJson? := ofJson?
  toJson := toJson

end Configuration

end SynonymLookup
