import SynonymLookup.Service.Basic

/-! The stored configurations. Those of a bundle are read through a cache, and whatever changes
them drops the bundle's cached list and invalidates its tag. -/

namespace SynonymLookup
namespace Repository

open Service

/-- The configurations under the given keys; a key that has gone is passed over. -/
def loadKeys : List String → Action (List Configuration)
  | [] => return []
  | key :: rest => do
    let found ← getStored Configuration key
    return found.toList ++ (← loadKeys rest)

/-- Every stored configuration, in key order. -/
def loadAll : Action (List Configuration) := do
  loadKeys (← listKeys Configuration.keyHead)

def load (id : String) : Action (Option Configuration) :=
  getStored Configuration (Configuration.keyOf id)

/-- The configuration of an id that must be stored. -/
def require (id : String) : Action Configuration := do
  match ← load id with
  | some c => return c
  | none => throw (.configurationNotFound id)

/-- The configurations that control a bundle, cached under its tag. -/
def loadFor (entityType bundle : String) : Action (List Configuration) := do
  let tag := bundleTag entityType bundle
  match (← get).cached.get? tag with
  | some list => return list
  | none =>
    let list := (← loadAll).filter fun c => c.controls entityType bundle
    modify fun s => { s with cached := s.cached.insert tag list }
    return list

/-- Drops the cached list of a tag and invalidates the tag. -/
def invalidate (tag : String) : Action Unit := do
  modify fun s => { s with cached := s.cached.erase tag }
  invalidateTag tag

def clearCache : Action Unit := modify fun s => { s with cached := .empty }

def invalidateFor (c : Configuration) : Action Unit :=
  match c.cacheTag? with
  | some tag => invalidate tag
  | none => return ()

/-- Stores a configuration under its own id. Its provider must be derivable. -/
def save (c : Configuration) : Action Unit := do
  let s ← get
  let errors := c.errors s.registry s.schema
  if !errors.isEmpty then throw (.validation errors)
  setStored c.key c
  invalidateFor c

/-- Whether there was a configuration to delete. What goes is the one its blob names. -/
def delete (id : String) : Action Bool := do
  match ← load id with
  | none => return false
  | some c =>
    deleteBlob c.key
    invalidateFor c
    return true

def provider (c : Configuration) : Action Provider := do
  let s ← get
  ofExcept (c.provider s.registry s.schema)

def form (id : String) (wordingType : WordingType) : Action (List FormElement) := do
  let c ← require id
  return (← provider c).configuration.form wordingType

/-- Validates submitted settings, then saves the configuration with them. -/
def submit (id : String) (values : Json) : Action Configuration := do
  let c ← require id
  let p ← provider c
  let errors := ProviderConfiguration.formErrors values
  if !errors.isEmpty then throw (.validation errors)
  let c := { c with settings := p.configuration.submit values }
  save c
  return c

end Repository
end SynonymLookup
