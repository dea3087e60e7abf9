import SynonymLookup.Entity
import SynonymLookup.Schema

/-! The store: entities by type and id under a schema, the entities flagged for reindexing, and how
many queries were executed. -/

namespace SynonymLookup

structure Store where
  schema : Schema := {}
  /-- By entity type, then by id. -/
  entities : KeyMap (KeyMap Entity) := .empty
  /-- The ids flagged for reindexing, by entity type. -/
  reindex : KeyMap (KeyMap Unit) := .empty
  executed : Nat := 0
deriving Inhabited

namespace Store

/-- The entities of a type by id. -/
def entitiesOf (s : Store) (entityType : String) : KeyMap Entity :=
  (s.entities.get? entityType).getD .empty

def load (s : Store) (entityType : String) (id : EntityId) : Option Entity :=
  (s.entitiesOf entityType).get? id.text

/-- The stored entities among `ids`, by id. -/
def loadAll (s : Store) (entityType : String) (ids : List EntityId) : KeyMap Entity :=
  KeyMap.ofList ((ids.filterMap (s.load entityType)).map fun e => (e.id.text, e))

def insertEntity (s : Store) (e : Entity) : Store :=
  { s with entities :=
      s.entities.update e.entityType fun m => (m.getD .empty).insert e.id.text e }

def removeEntity (s : Store) (entityType : String) (id : EntityId) : Store :=
  match s.entities.get? entityType with
  | none => s
  | some m => { s with entities := s.entities.insert entityType (m.erase id.text) }

/-- Flags entities for reindexing; flags are never taken back here. -/
def mark (s : Store) (entityType : String) (ids : List EntityId) : Store :=
  { s with reindex := s.reindex.update entityType fun m =>
      ids.foldl (fun m id => m.insert id.text ()) (m.getD .empty) }

def reindexQueue (s : Store) (entityType : String) : List EntityId :=
  ((s.reindex.get? entityType).getD .empty).keys.map EntityId.mk

def mapSchema (f : Schema → Schema) (s : Store) : Store := { s with schema := f s.schema }

end Store

end SynonymLookup
