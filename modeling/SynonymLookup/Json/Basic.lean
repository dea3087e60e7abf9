import SynonymLookup.KeyMap
import SynonymLookup.Decimal.Numeral

/-! JSON values. Integers and floating point numbers stay apart, and an object lists its fields; in
a normal value they are in key order without repetition, as `normalize` makes them. -/

namespace SynonymLookup

/-- An integer of 64 bits, with or without sign, or a floating point number. -/
inductive Number where
  | integer (value : Int)
  | float (value : Binary64)
deriving DecidableEq, Repr, Inhabited

namespace Number

def text : Number → String
  | integer n => toString n
  | float x => x.text

def natural? : Number → Option Nat
  | integer n => if 0 ≤ n then some n.toNat else none
  | float _ => none

def isFinite : Number → Bool
  | integer _ => true
  | float x => x.isFinite

end Number

inductive Json where
  | null
  | bool (value : Bool)
  | number (value : Number)
  | string (value : String)
  | array (items : List Json)
  | object (fields : List (String × Json))
deriving Inhabited

namespace Json

def isNull : Json → Bool
  | null => true
  | _ => false

/-- The text a scalar stands for. Null, the empty string, booleans and structured values stand for
none. -/
def text? : Json → Option String
  | string s => if s.isEmpty then none else some s
  | number n => some n.text
  | _ => none

def items? : Json → Option (List Json)
  | array items => some items
  | _ => none

def fields? : Json → Option (List (String × Json))
  | object fields => some fields
  | _ => none

def field? (name : String) : Json → Option Json
  | object fields => KeyMap.findEntry name fields
  | _ => none

def string? : Json → Option String
  | string s => some s
  | _ => none

/-- The name of a constant: a text, or a single field that is null. -/
def constant? : Json → Option String
  | string name => some name
  | object [(name, null)] => some name
  | _ => none

def bool? : Json → Option Bool
  | bool b => some b
  | _ => none

def natural? : Json → Option Nat
  | number n => n.natural?
  | _ => none

def ofNat (n : Nat) : Json := number (.integer n)

def ofStrings (l : List String) : Json := array (l.map string)

/-- `null` for nothing. -/
def ofOption {α : Type} (write : α → Json) : Option α → Json
  | none => null
  | some a => write a

/-- An object with its fields in key order, a later field of a name winning. -/
def ofFields (fields : List (String × Json)) : Json := object (KeyMap.ofList fields).entries

def ofMap {α : Type} (write : α → Json) (m : KeyMap α) : Json := object (m.map write).entries

mutual

def normalize : Json → Json
  | array items => array (normalizeItems items)
  | object fields => ofFields (normalizeFields fields)
  | scalar => scalar

def normalizeItems : List Json → List Json
  | [] => []
  | item :: rest => normalize item :: normalizeItems rest

def normalizeFields : List (String × Json) → List (String × Json)
  | [] => []
  | (name, value) :: rest => (name, normalize value) :: normalizeFields rest

end

/-- Any value will do. -/
def any? (j : Json) : Option Json := some j.normalize

mutual

def same : Json → Json → Bool
  | null, null => true
  | bool a, bool b => a == b
  | number a, number b => a == b
  | string a, string b => a == b
  | array items, array others => sameItems items others
  | object fields, object others => sameFields fields others
  | _, _ => false

def sameItems : List Json → List Json → Bool
  | [], [] => true
  | a :: items, b :: others => same a b && sameItems items others
  | _, _ => false

def sameFields : List (String × Json) → List (String × Json) → Bool
  | [], [] => true
  | (name, a) :: fields, (other, b) :: others =>
    name == other && same a b && sameFields fields others
  | _, _ => false

end

mutual

theorem same_iff : ∀ {a b : Json}, same a b = true ↔ a = b
  | null, b => by cases b <;> simp [same]
  | bool _, b => by cases b <;> simp [same]
  | number _, b => by cases b <;> simp [same]
  | string _, b => by cases b <;> simp [same]
  | array _, b => by cases b <;> simp [same, sameItems_iff]
  | object _, b => by cases b <;> simp [same, sameFields_iff]

theorem sameItems_iff : ∀ {items others : List Json}, sameItems items others = true ↔ items = others
  | [], others => by cases others <;> simp [sameItems]
  | _ :: _, others => by cases others <;> simp [sameItems, same_iff, sameItems_iff]

theorem sameFields_iff :
    ∀ {fields others : List (String × Json)}, sameFields fields others = true ↔ fields = others
  | [], others => by cases others <;> simp [sameFields]
  | (_, _) :: _, others => by
    cases others <;> simp [sameFields, same_iff, sameFields_iff, Prod.ext_iff, and_assoc]

end

instance : DecidableEq Json := fun _ _ => decidable_of_iff _ same_iff

end Json

/-- A type with a written form. -/
class JsonForm (α : Type) where
  ofJson? : Json → Option α
  toJson : α → Json

end SynonymLookup
