import SynonymLookup.Behavior.Basic
import SynonymLookup.Configuration.Basic
import SynonymLookup.Settings.CacheTags

/-! Everything a lookup works on, as one value, and the steps over it: the store, the settings, the
cache tags, the configurations cached for each bundle, and what is registered. -/

namespace SynonymLookup

structure Service where
  backend : Backend := {}
  blobs : Blobs := .empty
  tags : CacheTags := {}
  /-- Configurations by the tag of the bundle they control. -/
  cached : KeyMap (List Configuration) := .empty
  registry : Registry := Registry.builtin
  behaviors : List Behavior := Behavior.builtin
deriving Inhabited

abbrev Action (α : Type) := Step Service α

namespace Service

def store (s : Service) : Store := s.backend.store

def schema (s : Service) : Schema := s.backend.store.schema

def onBackend {α : Type} (step : Step Backend α) : Action α := do
  let s ← get
  let (result, backend) := step.run.run s.backend
  set { s with backend }
  ofExcept result

/-- Reads from the backend. -/
def ask {α : Type} (f : Backend → Except StorageError α) : Action α :=
  Step.read fun s => f s.backend

def allow (a : Access) : Action Unit := ask fun b => b.outages.allow a

def getBlob (key : String) : Action (Option Json) := do
  allow .configGet
  return (← get).blobs.get? key

def setBlob (key : String) (value : Json) : Action Unit := do
  allow .configSet
  modify fun s => { s with blobs := s.blobs.insert key value }

def deleteBlob (key : String) : Action Unit := do
  allow .configDelete
  modify fun s => { s with blobs := s.blobs.erase key }

def listKeys (head : String) : Action (List String) := do
  allow .configList
  return (← get).blobs.keysFrom head

/-- One property of a blob; other blobs than objects have none. -/
def getProperty (key property : String) : Action (Option Json) := do
  return (← getBlob key).bind fun j => j.field? property

/-- A stored value; one that is not of its form is malformed. -/
def getStored (α : Type) [Stored α] (key : String) : Action (Option α) := do
  match ← getBlob key with
  | none => return none
  | some j =>
    match JsonForm.ofJson? j with
    | some a => return some a
    | none => throw (.storage (.malformedValue key (Stored.complaint? α j)))

def setStored {α : Type} [Stored α] (key : String) (a : α) : Action Unit :=
  setBlob key (JsonForm.toJson a)

def invalidateTag (tag : String) : Action Unit :=
  modify fun s => { s with tags := s.tags.invalidate [tag] }

def entityType (id : String) : Action EntityType := do
  match (← get).schema.entityType? id with
  | some t => return t
  | none => throw (.unknownEntityType id)

end Service

end SynonymLookup
