import SynonymLookup.Json.Basic
import SynonymLookup.Json.Shape

/-! Reading JSON text. Objects keep their fields as written, repetitions included, so that a record
can refuse a repeated field; `ofText?` gives normal values. What a shape does not ask for is passed
over at any depth, and neither the range of its numbers nor the code points of its texts matter. -/

namespace SynonymLookup

namespace Binary64

/-- Product and quotient of finite values, rounded; the other cases do not arise in reading. -/
def mul : Binary64 → Binary64 → Binary64
  | finite s u, finite t v => ofRatio (s != t) (u * v) (unitsPerOne * unitsPerOne)
  | _, _ => nan

def div : Binary64 → Binary64 → Binary64
  | finite s u, finite t v => if v = 0 then nan else ofRatio (s != t) u v
  | _, _ => nan

def powerOfTen (k : Nat) : Binary64 := ofNat (Nat.pow 10 k)

/-- One rounded product or quotient by a power of ten; below 10^-308 it takes several quotients,
after three of which nothing is left. -/
def scaleByTen (x : Binary64) (exponent : Int) : (fuel : Nat) → Binary64
  | 0 => x
  | fuel + 1 =>
    if x = .finite false 0 then x
    else if 308 < exponent then .infinite false
    else if 0 ≤ exponent then x.mul (powerOfTen exponent.toNat)
    else if -308 ≤ exponent then x.div (powerOfTen (-exponent).toNat)
    else scaleByTen (x.div (powerOfTen 308)) (exponent + 308) fuel

end Binary64

namespace Json
namespace Reader

def isSpace (c : Char) : Bool := c = ' ' || c = '\n' || c = '\t' || c = '\r'

def skipSpace (cs : List Char) : List Char := cs.dropWhile isSpace

def takeDigitValues : List Char → List Nat × List Char
  | [] => ([], [])
  | c :: rest =>
    match Binary64.digitValue? c with
    | some d => let (ds, r) := takeDigitValues rest; (d :: ds, r)
    | none => ([], c :: rest)

def maxUnsigned : Nat := Nat.pow 2 64 - 1

/-- The leading digits that fit 64 bits, and how many more there are. -/
def wholePart (digits : List Nat) : Nat × Nat :=
  digits.foldl (fun (n, dropped) d =>
    if dropped = 0 ∧ n * 10 + d ≤ maxUnsigned then (n * 10 + d, 0) else (n, dropped + 1)) (0, 0)

/-- Further digits as long as they fit, each lowering the exponent; the others are ignored. -/
def fractionPart (significand : Nat) (exponent : Int) : List Nat → Nat × Int
  | [] => (significand, exponent)
  | d :: rest =>
    if significand * 10 + d ≤ maxUnsigned then
      fractionPart (significand * 10 + d) (exponent - 1) rest
    else (significand, exponent)

/-- An optional exponent: a letter, an optional sign and at least one digit. -/
def exponentPart? : List Char → Option (Int × List Char)
  | [] => some (0, [])
  | c :: rest =>
    if c = 'e' ∨ c = 'E' then
      let (negative, rest) := match rest with
        | '+' :: r => (false, r)
        | '-' :: r => (true, r)
        | r => (false, r)
      match takeDigitValues rest with
      | ([], _) => none
      | (ds, rest) =>
        let n : Int := (ds.foldl (fun n d => n * 10 + d) 0 : Nat)
        some (if negative then -n else n, rest)
    else some (0, c :: rest)

/-- Digits after a point, if there is one: at least one digit. -/
def pointPart? : List Char → Option (Option (List Nat) × List Char)
  | '.' :: rest =>
    match takeDigitValues rest with
    | ([], _) => none
    | (ds, rest) => some (some ds, rest)
  | rest => some (none, rest)

def signed (negative : Bool) (x : Binary64) : Binary64 := if negative then x.negate else x

/-- An integer token that fits 64 bits is an integer, but minus zero is a float. -/
def integerToken (negative : Bool) (digits : List Nat) : Number :=
  let (n, dropped) := wholePart digits
  if 0 < dropped then .float (signed negative ((Binary64.ofNat n).scaleByTen dropped 8))
  else if !negative then .integer n
  else if n = 0 ∨ Nat.pow 2 63 < n then .float (Binary64.ofNat n).negate
  else .integer (-n)

def floatToken (negative : Bool) (digits fraction : List Nat) (exponent : Int) : Number :=
  let (n, dropped) := wholePart digits
  let (n, place) := fractionPart n dropped fraction
  .float (signed negative ((Binary64.ofNat n).scaleByTen (place + exponent) 8))

def number? (negative : Bool) (cs : List Char) : Option (Number × List Char) :=
  let (digits, rest) := takeDigitValues cs
  if digits = [] ∨ (digits.head? = some 0 ∧ 1 < digits.length) then none
  else do
    let (fraction, rest) ← pointPart? rest
    match rest with
    | c :: _ =>
      if fraction = none ∧ c ≠ 'e' ∧ c ≠ 'E' then some (integerToken negative digits, rest)
      else
        let (exponent, rest) ← exponentPart? rest
        some (floatToken negative digits (fraction.getD []) exponent, rest)
    | [] =>
      match fraction with
      | none => some (integerToken negative digits, [])
      | some ds => some (floatToken negative digits ds 0, [])

def hexValue? (c : Char) : Option Nat :=
  if '0' ≤ c ∧ c ≤ '9' then some (c.toNat - '0'.toNat)
  else if 'a' ≤ c ∧ c ≤ 'f' then some (c.toNat - 'a'.toNat + 10)
  else if 'A' ≤ c ∧ c ≤ 'F' then some (c.toNat - 'A'.toNat + 10)
  else none

def hexUnit? (a b c d : Char) : Option Nat := do
  return (((← hexValue? a) * 16 + (← hexValue? b)) * 16 + (← hexValue? c)) * 16 + (← hexValue? d)

def isHighHalf (n : Nat) : Bool := 0xD800 ≤ n && n < 0xDC00

def isLowHalf (n : Nat) : Bool := 0xDC00 ≤ n && n < 0xE000

def joinHalves (high low : Nat) : Char :=
  Char.ofNat (0x10000 + (high - 0xD800) * 0x400 + (low - 0xDC00))

/-- What a backslash and a letter stand for. -/
def escape? (c : Char) : Option Char :=
  match c with
  | '"' => some '"' | '\\' => some '\\' | '/' => some '/' | 'b' => some '\x08'
  | 'f' => some '\x0c' | 'n' => some '\n' | 'r' => some '\r' | 't' => some '\t'
  | _ => none

/-- The characters up to the closing quote. Halves of a surrogate pair stand together or not at
all. -/
def stringTail? : List Char → Option (List Char × List Char)
  | [] => none
  | '"' :: rest => some ([], rest)
  | '\\' :: 'u' :: a :: b :: c :: d :: rest =>
    match hexUnit? a b c d with
    | none => none
    | some n =>
      if isLowHalf n then none
      else if isHighHalf n then
        match rest with
        | '\\' :: 'u' :: e :: f :: g :: h :: rest =>
          match hexUnit? e f g h with
          | some m =>
            if isLowHalf m then
              (stringTail? rest).map fun p => (joinHalves n m :: p.1, p.2)
            else none
          | none => none
        | _ => none
      else (stringTail? rest).map fun p => (Char.ofNat n :: p.1, p.2)
  | '\\' :: c :: rest =>
    match escape? c with
    | none => none
    | some p => (stringTail? rest).map fun q => (p :: q.1, q.2)
  | c :: rest =>
    if c.toNat < 0x20 ∨ c = '\\' then none
    else (stringTail? rest).map fun p => (c :: p.1, p.2)

/-- Passes over the characters up to the closing quote. -/
def passString? : List Char → Option (List Char)
  | [] => none
  | '"' :: rest => some rest
  | '\\' :: 'u' :: a :: b :: c :: d :: rest =>
    if (hexUnit? a b c d).isSome then passString? rest else none
  | '\\' :: c :: rest => if (escape? c).isSome then passString? rest else none
  | c :: rest => if c.toNat < 0x20 ∨ c = '\\' then none else passString? rest

def literal? (word : List Char) (value : Json) (cs : List Char) : Option (Json × List Char) :=
  if cs.take word.length = word then some (value, cs.drop word.length) else none

/-- Null, true and false. -/
def word? : List Char → Option (Json × List Char)
  | 'n' :: rest => literal? ['u', 'l', 'l'] .null rest
  | 't' :: rest => literal? ['r', 'u', 'e'] (.bool true) rest
  | 'f' :: rest => literal? ['a', 'l', 's', 'e'] (.bool false) rest
  | _ => none

/-- A number with its sign. -/
def numeral? : List Char → Option (Number × List Char)
  | '-' :: rest => number? true rest
  | cs => number? false cs

/-- Passes over a field's name and the colon behind it. -/
def passName? (cs : List Char) : Option (List Char) :=
  match skipSpace cs with
  | '"' :: rest => do
    match skipSpace (← passString? rest) with
    | ':' :: rest => some rest
    | _ => none
  | _ => none

mutual

/-- Passes over a value and on to the end of the arrays and objects it stands in, whose closing
brackets are `within`, the innermost first; `fuel` bounds the number of values and brackets. -/
def pass? : (fuel : Nat) → (within : List Char) → List Char → Option (List Char)
  | 0, _, _ => none
  | fuel + 1, within, cs =>
    match skipSpace cs with
    | '"' :: rest => do passOn? fuel within (← passString? rest)
    | '[' :: rest =>
      match skipSpace rest with
      | ']' :: rest => passOn? fuel within rest
      | _ => pass? fuel (']' :: within) rest
    | '\x7b' :: rest =>
      match skipSpace rest with
      | '\x7d' :: rest => passOn? fuel within rest
      | _ => do pass? fuel ('\x7d' :: within) (← passName? rest)
    | cs =>
      match word? cs with
      | some (_, rest) => passOn? fuel within rest
      | none => do passOn? fuel within (← numeral? cs).2

/-- Goes on behind a value. -/
def passOn? : (fuel : Nat) → (within : List Char) → List Char → Option (List Char)
  | _, [], cs => some cs
  | 0, _, _ => none
  | fuel + 1, close :: within, cs =>
    match skipSpace cs with
    | ',' :: rest =>
      if close = ']' then pass? fuel (close :: within) rest
      else do pass? fuel (close :: within) (← passName? rest)
    | c :: rest => if c = close then passOn? fuel within rest else none
    | [] => none

end

/-- Items after the opening bracket, each read by `item` of its place; `fuel` bounds
their number. -/
def items? (item : Nat → List Char → Option (Json × List Char)) :
    (fuel : Nat) → (place : Nat) → List Char → Option (List Json × List Char)
  | 0, _, _ => none
  | fuel + 1, place, cs => do
    let (value, rest) ← item place cs
    match skipSpace rest with
    | ',' :: rest =>
      let (more, rest) ← items? item fuel (place + 1) rest
      return (value :: more, rest)
    | ']' :: rest => return ([value], rest)
    | _ => none

/-- The field of a name, if it is wanted. -/
def wanted? (shape : Shape) (value : Shape → List Char → Option (Json × List Char))
    (name : String) (cs : List Char) : Option (List (String × Json) × List Char) :=
  match shape.field? name with
  | some shape => (value shape cs).map fun p => ([(name, p.1)], p.2)
  | none => (pass? (cs.length + 1) [] cs).map fun rest => ([], rest)

/-- Fields after the opening brace, in the order of the text, each read by `entry`. -/
def fields? (entry : String → List Char → Option (List (String × Json) × List Char)) :
    (fuel : Nat) → List Char → Option (List (String × Json) × List Char)
  | 0, _ => none
  | fuel + 1, cs => do
    match skipSpace cs with
    | '"' :: rest =>
      let (name, rest) ← stringTail? rest
      match skipSpace rest with
      | ':' :: rest =>
        let (first, rest) ← entry (String.ofList name) rest
        match skipSpace rest with
        | ',' :: rest =>
          let (more, rest) ← fields? entry fuel rest
          return (first ++ more, rest)
        | '\x7d' :: rest => return (first, rest)
        | _ => none
      | _ => none
    | _ => none

/-- One value, with at most `depth` arrays and objects inside each other. A number that is beyond
range is none. -/
def value? : (depth : Nat) → Shape → List Char → Option (Json × List Char)
  | depth, shape, cs =>
    match skipSpace cs with
    | '"' :: rest => (stringTail? rest).map fun p => (.string (String.ofList p.1), p.2)
    | '[' :: rest =>
      match depth with
      | 0 => none
      | depth + 1 =>
        match skipSpace rest with
        | ']' :: rest => some (.array [], rest)
        | _ =>
          (items? (fun place => value? depth (shape.item place)) rest.length 0 rest).map fun p =>
            (.array p.1, p.2)
    | '\x7b' :: rest =>
      match depth with
      | 0 => none
      | depth + 1 =>
        match skipSpace rest with
        | '\x7d' :: rest => some (.object [], rest)
        | _ =>
          (fields? (wanted? shape (value? depth)) rest.length rest).map fun p => (.object p.1, p.2)
    | cs =>
      match word? cs with
      | some p => some p
      | none => do
        let (n, rest) ← numeral? cs
        if n.isFinite then some (.number n, rest) else none

/-- Arrays and objects may stand inside each other this deep. -/
def maxDepth : Nat := 127

end Reader

/-- The value a whole text spells, fields as written, as far as the shape asks for it. -/
def read? (shape : Shape) (text : String) : Option Json := do
  let (value, rest) ← Reader.value? Reader.maxDepth shape text.toList
  if (Reader.skipSpace rest).isEmpty then some value else none

def ofText? (text : String) : Option Json := (read? .value text).map normalize

end Json

end SynonymLookup
