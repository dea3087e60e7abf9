import SynonymLookup.Condition.Basic
import SynonymLookup.Json.Record

/-! Conditions as JSON: an object with the single key `leaf`, `and` or `or`. -/

namespace SynonymLookup

namespace Column

def ofJson? : Json → Option Column
  | .object [("named", .string n)] => some (.named n)
  | j =>
    match j.constant? with
    | some "synonym" => some .synonym
    | some "entity_id" => some .entityId
    | _ => none

def toJson : Column → Json
  | synonym => .string "synonym"
  | entityId => .string "entity_id"
  | named n => .object [("named", .string n)]

instance : JsonForm Column := ⟨ofJson?, toJson⟩

@[simp] theorem ofJson?_toJson (c : Column) : ofJson? c.toJson = some c := by cases c <;> rfl

end Column

namespace Operator

def ofJson? (j : Json) : Option Operator := j.constant?.bind ofText?

def toJson (o : Operator) : Json := .string o.text

instance : JsonForm Operator := ⟨ofJson?, toJson⟩

@[simp] theorem ofJson?_toJson (o : Operator) : ofJson? o.toJson = some o := by
  simp [ofJson?, toJson, Json.constant?, ofText?_text]

end Operator

namespace Comparison

def ofJson? (j : Json) : Option Comparison := do
  let r ← j.record? ["column", "operator", "value"]
  return {
    column := ← r.required "column" Column.ofJson?
    operator := ← r.required "operator" Operator.ofJson?
    value := (r.get? "value").getD .null }

def toJson (c : Comparison) : Json := .object [
  ("column", c.column.toJson), ("operator", c.operator.toJson), ("value", c.value)]

instance : JsonForm Comparison := ⟨ofJson?, toJson⟩

@[simp] theorem ofJson?_toJson (c : Comparison) : ofJson? c.toJson = some c := by
  obtain ⟨column, operator, value⟩ := c
  simp [ofJson?, toJson, Json.record?, Json.openRecord?, Record.required, Record.get?,
    KeyMap.findEntry]

end Comparison

namespace Condition

mutual

def ofJson? : Json → Option Condition
  | .object [("leaf", c)] => (Comparison.ofJson? c).map .leaf
  | .object [("and", .array items)] => (ofItems? items).map .and
  | .object [("or", .array items)] => (ofItems? items).map .or
  | _ => none

def ofItems? : List Json → Option (List Condition)
  | [] => some []
  | item :: rest => do
    let c ← ofJson? item
    return c :: (← ofItems? rest)

end

mutual

def toJson : Condition → Json
  | .leaf c => .object [("leaf", Comparison.toJson c)]
  | .and children => .object [("and", .array (toItems children))]
  | .or children => .object [("or", .array (toItems children))]

def toItems : List Condition → List Json
  | [] => []
  | c :: rest => toJson c :: toItems rest

end

instance : JsonForm Condition := ⟨ofJson?, toJson⟩

end Condition

end SynonymLookup
