import SynonymLookup.Condition.Basic
import SynonymLookup.Error
import SynonymLookup.Like

/-! The test of one leaf against all values its column takes. A positive operator
holds if some value passes; its negative holds if there are values and none passes.
Text is compared without case. -/

namespace SynonymLookup

/-- The positive tests of a value. -/
inductive Test where
  | equal
  | like
  | isIn
  | less
  | lessOrEqual
  | greater
  | greaterOrEqual
deriving DecidableEq, Repr

/-- What an operator asks of the values of a column. -/
inductive Demand where
  | allNull
  | someNotNull
  | some (test : Test)
  | none (test : Test)
deriving DecidableEq, Repr

def Operator.demand : Operator → Demand
  | .equal => .some .equal
  | .notEqual => .none .equal
  | .like => .some .like
  | .notLike => .none .like
  | .isIn => .some .isIn
  | .notIn => .none .isIn
  | .less => .some .less
  | .lessOrEqual => .some .lessOrEqual
  | .greater => .some .greater
  | .greaterOrEqual => .some .greaterOrEqual
  | .isNull => .allNull
  | .isNotNull => .someNotNull

namespace Evaluation

/-- Numbers by value if both texts spell one, else lower case texts by code points. Nothing compares
with not-a-number. -/
def compareTexts (left right : String) : Option Ordering :=
  match Binary64.ofText? left, Binary64.ofText? right with
  | some x, some y => x.compare? y
  | _, _ => some (compare (Text.lowercase left) (Text.lowercase right))

/-- Compares with a value's text; a value without text compares with nothing. -/
def order (left : String) (right : Json) (accept : Ordering → Bool) : Bool :=
  ((right.text?.bind (compareTexts left)).map accept).getD false

def equalsText (left : String) (right : Json) : Bool :=
  (right.text?.map (Text.sameIgnoringCase left)).getD false

def patternRequired : StorageError := .invalidCondition "LIKE requires a string pattern"

def listRequired (o : Operator) : StorageError :=
  .invalidCondition ("operator " ++ o.text ++ " requires a list value")

/-- Tests the text of one value. -/
def passes (test : Test) (right : Json) (left : String) : Except StorageError Bool :=
  match test with
  | .equal => return equalsText left right
  | .like =>
    match right.text? with
    | some pattern => return Like.isMatch pattern left
    | none => throw patternRequired
  | .isIn => return ((right.items?.getD []).any (equalsText left))
  | .less => return order left right Ordering.isLT
  | .lessOrEqual => return order left right Ordering.isLE
  | .greater => return order left right Ordering.isGT
  | .greaterOrEqual => return order left right Ordering.isGE

/-- Tests values in order until one passes. Values without text pass nothing. -/
def anyPasses (test : Test) (right : Json) : List Json → Except StorageError Bool
  | [] => return false
  | v :: rest =>
    match v.text? with
    | none => anyPasses test right rest
    | some left => do if ← passes test right left then return true else anyPasses test right rest

/-- The test of a leaf. A list operator without a list is refused whatever the values. -/
def evaluate (o : Operator) (values : List Json) (right : Json) : Except StorageError Bool :=
  match o.demand with
  | .allNull => return values.all Json.isNull
  | .someNotNull => return values.any fun v => !v.isNull
  | .some test => do
    if o.takesList && right.items?.isNone then throw (listRequired o)
    anyPasses test right values
  | .none test => do
    if o.takesList && right.items?.isNone then throw (listRequired o)
    return !values.isEmpty && !(← anyPasses test right values)

end Evaluation

end SynonymLookup
