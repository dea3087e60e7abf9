import SynonymLookup.Store.Query
import SynonymLookup.Store.Selection

/-! The store as services reach it. An access that is out of service refuses before it gets to the
store, and hidden entities are left out when several are loaded. -/

namespace SynonymLookup

/-- The ways into the stores, each of which can be out of service. -/
inductive Access where
  | load | loadMultiple | execute | resolve | selection | reindex
  | configGet | configSet | configDelete | configList
deriving DecidableEq, Repr

namespace Access

def all : List Access := [load, loadMultiple, execute, resolve, selection, reindex,
  configGet, configSet, configDelete, configList]

def name : Access → String
  | load => "load"
  | loadMultiple => "load_multiple"
  | execute => "execute"
  | resolve => "resolve"
  | selection => "selection"
  | reindex => "reindex"
  | configGet => "config_get"
  | configSet => "config_set"
  | configDelete => "config_delete"
  | configList => "config_list"

def ofName? (s : String) : Option Access := all.find? (·.name == s)

end Access

structure Outages where
  down : List Access := []
  hidden : List EntityId := []
deriving Inhabited

/-- Refuses an access that is out of service. -/
def Outages.allow (o : Outages) (a : Access) : Except StorageError Unit :=
  if o.down.contains a then throw (.backend (a.name ++ " failed")) else return ()

structure Backend where
  store : Store := {}
  outages : Outages := {}
deriving Inhabited

/-- A step over some state that may fail; what it changed before failing stays changed. -/
abbrev Step (σ α : Type) := ExceptT LookupError (StateM σ) α

/-- A step that only reads. -/
def Step.read {σ α : Type} (f : σ → Except StorageError α) : Step σ α := do
  match f (← get) with
  | .ok a => return a
  | .error e => throw (.storage e)

namespace Backend

def schema (b : Backend) : Schema := b.store.schema

def load (b : Backend) (entityType : String) (id : EntityId) :
    Except StorageError (Option Entity) := do
  b.outages.allow .load
  return b.store.load entityType id

def loadAll (b : Backend) (entityType : String) (ids : List EntityId) :
    Except StorageError (KeyMap Entity) := do
  b.outages.allow .loadMultiple
  return (b.store.loadAll entityType ids).filter fun id _ => !b.outages.hidden.contains ⟨id⟩

def locate (b : Backend) (entityType column : String) : Except StorageError Location := do
  b.outages.allow .resolve
  b.schema.locate entityType column

def select (b : Backend) (q : Selection) : Except StorageError (List Referenceable) := do
  b.outages.allow .selection
  b.store.select q

/-- Executes a query. A refused one does not reach the store and is not counted. -/
def execute (q : Query) : Step Backend (List Row) := do
  Step.read fun b => b.outages.allow .execute
  let b ← get
  let (result, store) := b.store.execute q
  set { b with store }
  match result with
  | .ok rows => return rows
  | .error e => throw (.storage e)

def mark (entityType : String) (ids : List EntityId) : Step Backend Unit := do
  Step.read fun b => b.outages.allow .reindex
  modify fun b => { b with store := b.store.mark entityType ids }

end Backend

end SynonymLookup
