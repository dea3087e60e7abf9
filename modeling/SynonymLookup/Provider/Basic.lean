import SynonymLookup.Backend
import SynonymLookup.Provider.Definition
import SynonymLookup.Provider.Form

/-! Providers: what extracts and searches the synonyms in one field of one bundle. A provider base
derives definitions from the schema and makes a provider for each; what a provider does not say
itself has a default. -/

namespace SynonymLookup

/-- The optional operations a provider supports. -/
structure Capabilities where
  get : Bool := false
  find : Bool := false
  formatWording : Bool := false
  configure : Bool := false
deriving DecidableEq, Repr

namespace Capabilities

def all : Capabilities := ⟨true, true, true, true⟩

def none : Capabilities := {}

/-- A single operation by its name, or all of them. -/
def ofName? : String → Option Capabilities
  | "get" => some { get := true }
  | "find" => some { find := true }
  | "format_wording" => some { formatWording := true }
  | "configure" => some { configure := true }
  | "all" => some all
  | _ => Option.none

def union (a b : Capabilities) : Capabilities :=
  ⟨a.get || b.get, a.find || b.find, a.formatWording || b.formatWording,
    a.configure || b.configure⟩

/-- Every operation of `b` is one of `a`. -/
def contains (a b : Capabilities) : Bool := a.union b == a

end Capabilities

/-- Refuses entities of different types or bundles, naming the first that differs. -/
def ensureSingleBundle : List Entity → Except LookupError Unit
  | [] => return ()
  | first :: rest =>
    match rest.find? fun e => e.entityType != first.entityType || e.bundle != first.bundle with
    | none => return ()
    | some other => throw (.preconditionFailed
        ("entities must share one bundle, got " ++ first.entityType ++ "." ++ first.bundle ++
          " and " ++ other.entityType ++ "." ++ other.bundle))

structure Provider where
  definition : ProviderDefinition
  configuration : ProviderConfiguration
  capabilities : Capabilities := { formatWording := true, configure := true }
  /-- The synonyms of one entity; empty where there is no data. -/
  synonyms : Backend → Entity → List String := fun _ _ => []
  /-- The synonyms of entities of one bundle, by id. -/
  synonymsOfAll : Backend → KeyMap Entity → Except LookupError (KeyMap (List String)) :=
    fun b entities => do
      ensureSingleBundle entities.values
      return entities.map (synonyms b)
  /-- The pairs of entity and synonym that meet a condition with placeholders. -/
  find : Condition → Step Backend (List SynonymResult) := fun _ => return []

structure ProviderBase where
  id : String
  label : String
  derive : Schema → List ProviderDefinition
  create : Schema → ProviderDefinition → ProviderConfiguration → Provider

end SynonymLookup
