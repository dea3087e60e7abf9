import SynonymLookup.Json.Basic

/-! Condition trees over columns. Two placeholder columns stand for the synonym and the entity id
until a provider puts its own columns in their place; nothing else of a tree changes then. -/

namespace SynonymLookup

inductive Column where
  | synonym
  | entityId
  | named (name : String)
deriving DecidableEq, Repr, Inhabited

namespace Column

def isPlaceholder : Column → Bool
  | named _ => false
  | _ => true

def name? : Column → Option String
  | named n => some n
  | _ => none

/-- The column in diagnostics. -/
def display : Column → String
  | synonym => "***SYNONYM_COLUMN***"
  | entityId => "***ENTITY_ID***"
  | named n => n

/-- Puts concrete columns in place of the placeholders. -/
def bind (synonymColumn idColumn : String) : Column → Column
  | synonym => named synonymColumn
  | entityId => named idColumn
  | named n => named n

@[simp] theorem isPlaceholder_bind (s e : String) (c : Column) :
    (c.bind s e).isPlaceholder = false := by cases c <;> rfl

end Column

inductive Operator where
  | equal | notEqual | like | notLike | isIn | notIn
  | less | lessOrEqual | greater | greaterOrEqual | isNull | isNotNull
deriving DecidableEq, Repr, Inhabited

namespace Operator

def all : List Operator := [equal, notEqual, like, notLike, isIn, notIn, less, lessOrEqual,
  greater, greaterOrEqual, isNull, isNotNull]

def text : Operator → String
  | equal => "="
  | notEqual => "<>"
  | like => "LIKE"
  | notLike => "NOT LIKE"
  | isIn => "IN"
  | notIn => "NOT IN"
  | less => "<"
  | lessOrEqual => "<="
  | greater => ">"
  | greaterOrEqual => ">="
  | isNull => "IS NULL"
  | isNotNull => "IS NOT NULL"

def ofText? (s : String) : Option Operator := all.find? (·.text == s)

/-- The operator compares with a list. -/
def takesList : Operator → Bool
  | isIn | notIn => true
  | _ => false

theorem ofText?_text (o : Operator) : ofText? o.text = some o := by cases o <;> rfl

end Operator

/-- One comparison of a column with a value. -/
structure ComparisonOf (γ : Type) where
  column : γ
  operator : Operator
  value : Json

/-- A tree over columns of some kind. An empty conjunction holds, an empty disjunction does not. -/
inductive ConditionOf (γ : Type) where
  | leaf (comparison : ComparisonOf γ)
  | and (children : List (ConditionOf γ))
  | or (children : List (ConditionOf γ))

abbrev Comparison := ComparisonOf Column
abbrev Condition := ConditionOf Column

instance : Inhabited Condition := ⟨.and []⟩

namespace ConditionOf

variable {γ δ ε : Type}

mutual

/-- The columns of all leaves, depth first. -/
def columns : ConditionOf γ → List γ
  | leaf c => [c.column]
  | and children => columnsOfAll children
  | or children => columnsOfAll children

def columnsOfAll : List (ConditionOf γ) → List γ
  | [] => []
  | c :: rest => columns c ++ columnsOfAll rest

end

mutual

def map (f : γ → δ) : ConditionOf γ → ConditionOf δ
  | leaf c => leaf { c with column := f c.column }
  | and children => and (mapAll f children)
  | or children => or (mapAll f children)

def mapAll (f : γ → δ) : List (ConditionOf γ) → List (ConditionOf δ)
  | [] => []
  | c :: rest => map f c :: mapAll f rest

end

mutual

/-- Replaces each column, depth first; the first that has no replacement ends it. -/
def traverse (f : γ → Except ε δ) : ConditionOf γ → Except ε (ConditionOf δ)
  | leaf c => do return leaf { c with column := ← f c.column }
  | and children => do return and (← traverseAll f children)
  | or children => do return or (← traverseAll f children)

def traverseAll (f : γ → Except ε δ) : List (ConditionOf γ) → Except ε (List (ConditionOf δ))
  | [] => return []
  | c :: rest => do
    let c ← traverse f c
    return c :: (← traverseAll f rest)

end

mutual

/-- Evaluates a tree whose leaves are tested by `test`, from left to right and only as far as the
outcome is open. -/
def holds (test : ComparisonOf γ → Except ε Bool) : ConditionOf γ → Except ε Bool
  | leaf c => test c
  | and children => allHold test children
  | or children => anyHolds test children

def allHold (test : ComparisonOf γ → Except ε Bool) : List (ConditionOf γ) → Except ε Bool
  | [] => return true
  | c :: rest => do if ← holds test c then allHold test rest else return false

def anyHolds (test : ComparisonOf γ → Except ε Bool) : List (ConditionOf γ) → Except ε Bool
  | [] => return false
  | c :: rest => do if ← holds test c then return true else anyHolds test rest

end

/-- Adds a child; a leaf becomes a conjunction first. -/
def push (c child : ConditionOf γ) : ConditionOf γ :=
  match c with
  | and children => and (children ++ [child])
  | or children => or (children ++ [child])
  | leaf c => and [leaf c, child]

@[simp] theorem columns_leaf (c : ComparisonOf γ) : (leaf c).columns = [c.column] := by
  simp [columns]

theorem columnsOfAll_eq (l : List (ConditionOf γ)) : columnsOfAll l = l.flatMap columns := by
  induction l with
  | nil => simp [columnsOfAll]
  | cons c rest ih => simp [columnsOfAll, ih]

@[simp] theorem columns_and (l : List (ConditionOf γ)) :
    (ConditionOf.and l).columns = l.flatMap columns := by simp [columns, columnsOfAll_eq]

@[simp] theorem columns_or (l : List (ConditionOf γ)) :
    (ConditionOf.or l).columns = l.flatMap columns := by simp [columns, columnsOfAll_eq]

theorem mapAll_eq (f : γ → δ) (l : List (ConditionOf γ)) : mapAll f l = l.map (map f) := by
  induction l with
  | nil => simp [mapAll]
  | cons c rest ih => simp [mapAll, ih]

end ConditionOf

namespace Condition

def compare (column : Column) (operator : Operator) (value : Json) : Condition :=
  .leaf ⟨column, operator, value⟩

def onSynonym (operator : Operator) (value : Json) : Condition := compare .synonym operator value

def onEntityId (operator : Operator) (value : Json) : Condition := compare .entityId operator value

def onColumn (name : String) (operator : Operator) (value : Json) : Condition :=
  compare (.named name) operator value

/-- The tree with concrete columns in place of the placeholders, at every depth. -/
def resolve (c : Condition) (synonymColumn idColumn : String) : Condition :=
  c.map (Column.bind synonymColumn idColumn)

def firstPlaceholder? (c : Condition) : Option Column := c.columns.find? Column.isPlaceholder

def isResolved (c : Condition) : Bool := c.firstPlaceholder?.isNone

end Condition

end SynonymLookup
