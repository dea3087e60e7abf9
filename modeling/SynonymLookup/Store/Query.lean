import SynonymLookup.Condition.Basic
import SynonymLookup.Evaluation
import SynonymLookup.Store.Location

/-! Condition queries. Selecting a column gives a row for each of its values, and leaves on that
column see the row's value alone; leaves on other columns see all values of the entity. -/

namespace SynonymLookup

structure Query where
  entityType : String
  condition : Condition
  /-- Columns returned in each row. -/
  columns : List String := []
  limit : Option Nat := none

structure Row where
  entityId : EntityId
  values : KeyMap Json
deriving DecidableEq

def Row.toJson (r : Row) : Json := Json.ofFields [
  ("id", r.entityId.toJson), ("values", Json.ofMap id r.values)]

/-- A column name with its location. -/
structure Target where
  name : String
  location : Location
deriving DecidableEq, Repr

namespace Store

def target (s : Store) (entityType name : String) : Except StorageError Target := do
  return ⟨name, ← s.schema.locate entityType name⟩

def targetOf (s : Store) (entityType : String) : Column → Except StorageError Target
  | .named name => s.target entityType name
  | placeholder => throw (.unresolvedPlaceholder placeholder.display)

def targets (s : Store) (entityType : String) : List String → Except StorageError (List Target)
  | [] => return []
  | name :: rest => do
    let t ← s.target entityType name
    return t :: (← s.targets entityType rest)

/-- Every combination of one value for each column, the first column's values turning slowest; a
later column of the same name overrides. -/
def bindings (s : Store) (e : Entity) (columns : List Target) : List (KeyMap Json) :=
  columns.foldl (fun found c =>
    found.flatMap fun b => (s.valuesAt e c.location).map fun v => b.insert c.name v) [.empty]

/-- The test of a leaf for one entity and combination. -/
def leafHolds (s : Store) (e : Entity) (binding : KeyMap Json) (c : ComparisonOf Target) :
    Except StorageError Bool :=
  let values := match binding.get? c.column.name with
    | some v => [v]
    | none => s.valuesAt e c.column.location
  Evaluation.evaluate c.operator values c.value

/-- Candidate rows: the entities of the type in id order, each with its combinations in order. -/
def candidates (s : Store) (entityType : String) (columns : List Target) :
    List (Entity × KeyMap Json) :=
  (s.entitiesOf entityType).values.flatMap fun e => (s.bindings e columns).map fun b => (e, b)

/-- The rows that pass, in order. The limit is looked at after a row was taken. -/
def collectRows (limit : Option Nat) (test : Entity → KeyMap Json → Except StorageError Bool) :
    (taken : Nat) → List (Entity × KeyMap Json) → Except StorageError (List Row)
  | _, [] => return []
  | taken, (e, b) :: rest => do
    if ← test e b then
      if limit.any (· ≤ taken + 1) then return [⟨e.id, b⟩]
      else return ⟨e.id, b⟩ :: (← collectRows limit test (taken + 1) rest)
    else collectRows limit test taken rest

/-- The rows of a query. A placeholder is refused first, then an unknown type, then the first
column of the condition or of the selection that leads nowhere. -/
def rows (s : Store) (q : Query) : Except StorageError (List Row) := do
  match q.condition.firstPlaceholder? with
  | some c => throw (.unresolvedPlaceholder c.display)
  | none =>
    if (s.schema.entityType? q.entityType).isNone then throw (.unknownEntityType q.entityType)
    let condition ← q.condition.traverse (s.targetOf q.entityType)
    let columns ← s.targets q.entityType q.columns
    collectRows q.limit (fun e b => condition.holds (s.leafHolds e b)) 0
      (s.candidates q.entityType columns)

/-- Executes a query; every execution is counted, also one that fails. -/
def execute (s : Store) (q : Query) : Except StorageError (List Row) × Store :=
  (s.rows q, { s with executed := s.executed + 1 })

end Store

end SynonymLookup
