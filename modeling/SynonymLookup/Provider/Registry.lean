import SynonymLookup.Provider.Reference

/-! The registered provider bases, and providers made from them. Definitions are derived anew on
every call, so an edit of the schema shows at once. -/

namespace SynonymLookup

abbrev Registry := List ProviderBase

namespace Registry

def builtin : Registry := [FieldProvider.base, FieldProvider.configurable, ReferenceProvider.base]

/-- Adds a base at the end, in place of one with the same id. -/
def register (r : Registry) (base : ProviderBase) : Registry :=
  replaceAtEnd ProviderBase.id base r

def base? (r : Registry) (id : String) : Option ProviderBase := r.find? fun b => b.id == id

def definitions (r : Registry) (s : Schema) : List ProviderDefinition :=
  r.flatMap fun b => b.derive s

def definitionsFor (r : Registry) (s : Schema) (entityType bundle : String) :
    List ProviderDefinition :=
  (r.definitions s).filter fun d => d.entityType == entityType && d.bundle == bundle

/-- The base named before the first colon, with the first definition it derives for the whole id. -/
def resolve? (r : Registry) (s : Schema) (plugin : String) :
    Option (ProviderBase × ProviderDefinition) := do
  let (baseId, _) ← Text.cut ':' plugin
  let base ← r.base? baseId
  let definition ← (base.derive s).find? fun d => d.id == plugin
  return (base, definition)

def definition? (r : Registry) (s : Schema) (plugin : String) : Option ProviderDefinition :=
  (r.resolve? s plugin).map (·.2)

def create (r : Registry) (s : Schema) (plugin : String) (c : ProviderConfiguration) :
    Except LookupError Provider :=
  match r.resolve? s plugin with
  | some (base, definition) => return base.create s definition c
  | none => throw (.unknownProvider plugin)

end Registry

end SynonymLookup
