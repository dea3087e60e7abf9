import SynonymLookup.Decimal.Numeral
import SynonymLookup.Json.Overlay
import SynonymLookup.Text.Blank
import SynonymLookup.Text.Utf8
import SynonymLookup.Toml.Text

/-! The values of environment variables: booleans, numbers, quoted texts and characters, lists,
tables and bare words. What is none of these stands for itself. -/

namespace SynonymLookup
namespace Startup
namespace Variable

/-- Blanks around a value, of ASCII only. -/
def isBlank (c : Char) : Bool := c = ' ' || c = '\t' || c = '\n' || c = '\x0c' || c = '\r'

def skipBlank (cs : List Char) : List Char := cs.dropWhile isBlank

/-- Where a bare word ends. -/
def isSeparator (c : Char) : Bool :=
  c = ',' || c = '[' || c = ']' || c = '\x7b' || c = '\x7d'

/-- A decimal integer with an optional sign, of 64 bits with or without sign. -/
def integer? (cs : List Char) : Option Int := do
  let (negative, ds) := match cs with
    | '-' :: rest => (true, rest)
    | '+' :: rest => (false, rest)
    | ds => (false, ds)
  if ds.isEmpty || !ds.all Char.isDigit then none
  let n : Int := ds.foldl (fun n c => n * 10 + ((Binary64.digitValue? c).getD 0 : Nat)) 0
  let n := if negative then -n else n
  if -(Nat.pow 2 63 : Int) ≤ n ∧ n < Nat.pow 2 64 then return n else none

/-- Numbers with a point are floating point numbers. -/
def float? (cs : List Char) : Option Binary64 :=
  if cs.contains '.' then Binary64.ofText? (String.ofList cs) else none

/-- A bare word without the white space around it: a number or a text. -/
def bare (cs : List Char) : Json :=
  let word := Text.trimChars cs
  match integer? word with
  | some n => .number (.integer n)
  | none => match float? word with
    | some x => .number (.float x)
    | none => .string (String.ofList word)

/-- Why a text is not read. -/
inductive Refusal where
  /-- It spells no value. -/
  | malformed
  /-- What stands before its first escape is cut inside a character. -/
  | splitCharacter
deriving DecidableEq, Repr

abbrev Read := Except Refusal

def orMalformed {α : Type} (o : Option α) : Read α :=
  match o with
  | some a => return a
  | none => throw .malformed

/-- What stands up to the closing quote, escapes as written. -/
def quotedTail? : List Char → Option (List Char × List Char)
  | [] => none
  | '"' :: rest => some ([], rest)
  | '\\' :: c :: rest => (quotedTail? rest).map fun p => ('\\' :: c :: p.1, p.2)
  | c :: rest => (quotedTail? rest).map fun p => (c :: p.1, p.2)

def endOfText : Toml.Reader (List Char)
  | [] => some ([], [])
  | _ => none

/-- The text that a quoted one stands for. Of what stands before the first escape, as many bytes are
kept as it has characters. -/
def unescape (cs : List Char) : Read String := do
  let before := cs.takeWhile (· != '\\')
  if before.any Toml.isControl then throw .malformed
  match cs.dropWhile (· != '\\') with
  | [] => return String.ofList before
  | rest =>
    match Text.takeBytes? before.length before with
    | none => throw .splitCharacter
    | some kept =>
      let (more, _) ← orMalformed (Toml.pieces Toml.basicPiece endOfText (rest.length + 1) rest)
      return String.ofList (kept ++ more)

/-- The text after an opening quote, and what follows it. -/
def quoted (cs : List Char) : Read (String × List Char) := do
  let (inner, rest) ← orMalformed (quotedTail? cs)
  return (← unescape inner, rest)

def isNameChar (c : Char) : Bool := c.isAlphanum || c = '_' || c = '-'

/-- The name of an entry of a table. -/
def name (cs : List Char) : Read (String × List Char) :=
  match skipBlank cs with
  | '"' :: rest => quoted rest
  | cs =>
    match cs.takeWhile isNameChar with
    | [] => throw .malformed
    | word => return (String.ofList word, cs.dropWhile isNameChar)

mutual

/-- A value and the blanks behind it; `fuel` bounds the number of values and their parts. -/
def value : (fuel : Nat) → List Char → Read (Json × List Char)
  | 0, _ => throw .malformed
  | fuel + 1, cs => do
    let (value, rest) ← match skipBlank cs with
      | 't' :: 'r' :: 'u' :: 'e' :: rest => pure (.bool true, rest)
      | 'f' :: 'a' :: 'l' :: 's' :: 'e' :: rest => pure (.bool false, rest)
      | '[' :: rest => do
        let (items, rest) ← items fuel rest
        pure (.array items, rest)
      | '\x7b' :: rest => do
        let (entries, rest) ← entries fuel rest
        pure (Json.ofFields entries, rest)
      | '"' :: rest => do
        let (text, rest) ← quoted rest
        pure (.string text, rest)
      | '\'' :: c :: '\'' :: rest => pure (.string (String.ofList [c]), rest)
      | '\'' :: _ => throw .malformed
      | cs => pure (bare (cs.takeWhile (!isSeparator ·)), cs.dropWhile (!isSeparator ·))
    return (value, skipBlank rest)

/-- Items up to the closing bracket; the last may be followed by a comma. -/
def items : (fuel : Nat) → List Char → Read (List Json × List Char)
  | 0, _ => throw .malformed
  | _ + 1, ']' :: rest => return ([], rest)
  | fuel + 1, cs => do
    let (item, rest) ← value fuel cs
    match rest with
    | ',' :: rest =>
      let (more, rest) ← items fuel rest
      return (item :: more, rest)
    | ']' :: rest => return ([item], rest)
    | _ => throw .malformed

/-- Entries up to the closing brace. -/
def entries : (fuel : Nat) → List Char → Read (List (String × Json) × List Char)
  | 0, _ => throw .malformed
  | _ + 1, '\x7d' :: rest => return ([], rest)
  | fuel + 1, cs => do
    let (name, rest) ← name cs
    match skipBlank rest with
    | '=' :: rest =>
      let (value, rest) ← value fuel rest
      match rest with
      | ',' :: rest =>
        let (more, rest) ← entries fuel rest
        return ((name, value) :: more, rest)
      | '\x7d' :: rest => return ([(name, value)], rest)
      | _ => throw .malformed
    | _ => throw .malformed

end

/-- The value of a variable; none if a text in it is cut inside a character. -/
def ofText? (s : String) : Option Json :=
  match value (2 * s.length + 2) s.toList with
  | .ok (value, []) => some value
  | .ok _ | .error .malformed => some (.string s)
  | .error .splitCharacter => none

end Variable
end Startup
end SynonymLookup
