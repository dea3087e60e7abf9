import SynonymLookup.Json.Basic
import SynonymLookup.Json.Shape

/-! Records: objects with known fields, or arrays of these fields' values in their order. Unknown
fields are ignored, a repeated known field is refused, and a default stands in for an absent field
but never for a null one. -/

namespace SynonymLookup

/-- The fields of a record in which no known name repeats. -/
structure Record where
  fields : List (String × Json)

namespace Json

/-- A record with room for fields of unknown names. -/
def openRecord? (names : List String) : Json → Option Record
  | object fields =>
    if names.all fun n => fields.countP (·.1 == n) ≤ 1 then some ⟨fields⟩ else none
  | _ => none

/-- The last values of an array may be missing, but there are no more than fields. -/
def record? (names : List String) : Json → Option Record
  | array items => if items.length ≤ names.length then some ⟨names.zip items⟩ else none
  | j => j.openRecord? names

/-- All items read, or nothing. -/
def list? {α : Type} (read : Json → Option α) : Json → Option (List α)
  | array items => items.mapM read
  | _ => none

/-- All values read, or nothing; a later entry of a key wins. -/
def map? {α : Type} (read : Json → Option α) : Json → Option (KeyMap α)
  | object fields =>
    (fields.mapM fun f => (read f.2).map fun v => (f.1, v)).map KeyMap.ofList
  | _ => none

def strings? : Json → Option (List String) := list? string?

end Json

namespace Record

variable {α : Type}

def get? (r : Record) (name : String) : Option Json := KeyMap.findEntry name r.fields

def required (r : Record) (name : String) (read : Json → Option α) : Option α :=
  (r.get? name).bind read

def withDefault (r : Record) (name : String) (read : Json → Option α) (default : α) : Option α :=
  match r.get? name with
  | none => some default
  | some j => read j

/-- Absent and null both mean nothing. -/
def optional (r : Record) (name : String) (read : Json → Option α) : Option (Option α) :=
  match r.get? name with
  | none | some .null => some none
  | some j => (read j).map some

/-- The fields under other names than these, as normal values. -/
def others? (r : Record) (names : List String) : Option (KeyMap Json) :=
  Json.map? Json.any? (.object (r.fields.filter fun f => !names.contains f.1))

end Record

end SynonymLookup
