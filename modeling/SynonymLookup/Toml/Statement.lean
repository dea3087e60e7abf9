import SynonymLookup.Toml.Text

/-! The statements of a TOML document: table headers, and keys with text, integers, floating point
numbers or booleans. -/

namespace SynonymLookup
namespace Toml

inductive Statement where
  | table (path : List String)
  | pair (path : List String) (value : Json)

/-- What follows the rest of a line, on which there are only blanks and a comment. -/
def lineEnd? (cs : List Char) : Option (List Char) :=
  let rest := match skipBlank cs with
    | '#' :: rest => rest.dropWhile fun c => !isControl c
    | rest => rest
  if rest.isEmpty then some [] else newline? rest

def isBare (c : Char) : Bool := c.isAlphanum || c = '_' || c = '-'

def keyPart (cs : List Char) : Option (String × List Char) :=
  match quoted cs with
  | some p => some p
  | none =>
    match cs.takeWhile isBare with
    | [] => none
    | name => some (String.ofList name, cs.dropWhile isBare)

/-- Key parts with points between them, at most so many. -/
def key : (parts : Nat) → Reader (List String)
  | 0, _ => none
  | parts + 1, cs => do
    let (part, rest) ← keyPart (skipBlank cs)
    match skipBlank rest with
    | '.' :: rest =>
      let (more, rest) ← key parts rest
      return (part :: more, rest)
    | rest => return ([part], rest)

/-- How many parts a key may have. -/
def maxParts : Nat := 79

/-- Digits with single underscores between them, without the underscores. -/
def digits? (isDigit : Char → Bool) (cs : List Char) : Option (List Char) :=
  let parts := cs.splitOnP (· = '_')
  if parts.all fun part => !part.isEmpty && part.all isDigit then some parts.flatten else none

def unsign (cs : List Char) : Bool × List Char :=
  match cs with
  | '-' :: rest => (true, rest)
  | '+' :: rest => (false, rest)
  | _ => (false, cs)

/-- Decimal digits without a leading zero. -/
def decimal? (cs : List Char) : Option (List Char) := do
  let ds ← digits? Char.isDigit cs
  if ds.head? = some '0' ∧ 1 < ds.length then none else return ds

def isOctal (c : Char) : Bool := '0' ≤ c && c ≤ '7'

def isBinary (c : Char) : Bool := c = '0' || c = '1'

def isHex (c : Char) : Bool := (Json.Reader.hexValue? c).isSome

def inBase (base : Nat) (ds : List Char) : Int :=
  ds.foldl (fun n c => n * base + ((Json.Reader.hexValue? c).getD 0 : Nat)) 0

def magnitude? (cs : List Char) : Option Int :=
  match cs with
  | '0' :: 'x' :: rest => (digits? isHex rest).map (inBase 16)
  | '0' :: 'o' :: rest => (digits? isOctal rest).map (inBase 8)
  | '0' :: 'b' :: rest => (digits? isBinary rest).map (inBase 2)
  | _ => none

/-- An integer of 64 bits with sign. Only decimal ones may have a sign written. -/
def integer? (cs : List Char) : Option Int := do
  let n ← match magnitude? cs with
    | some n => some n
    | none =>
      let (negative, body) := unsign cs
      (decimal? body).map fun ds => if negative then -inBase 10 ds else inBase 10 ds
  if -(Nat.pow 2 63 : Int) ≤ n ∧ n < Nat.pow 2 63 then return n else none

/-- A floating point number: digits with a fraction, an exponent or both, or the words for infinity
and not-a-number. Digits above the range are refused, but below it they mean minus infinity. -/
def float? (cs : List Char) : Option Binary64 := do
  let (negative, body) := unsign cs
  if body = ['i', 'n', 'f'] then return .infinite negative
  if body = ['n', 'a', 'n'] then return .nan
  let mantissa := body.takeWhile fun c => c != 'e' && c != 'E'
  let exponent := body.dropWhile fun c => c != 'e' && c != 'E'
  let whole ← decimal? (mantissa.takeWhile (· != '.'))
  let fraction ← match mantissa.dropWhile (· != '.') with
    | [] => if exponent.isEmpty then none else some []
    | _ :: ds => (digits? Char.isDigit ds).map ('.' :: ·)
  let power ← match exponent with
    | [] => some []
    | letter :: rest =>
      let (down, ds) := unsign rest
      (digits? Char.isDigit ds).map fun ds => letter :: (if down then '-' else '+') :: ds
  let x ← Binary64.ofText?
    (String.ofList ((if negative then '-' else '+') :: whole ++ fraction ++ power))
  if x = .infinite false then none else return x

/-- A value that is not quoted. -/
def plain? (cs : List Char) : Option Json :=
  if cs = ['t', 'r', 'u', 'e'] then some (.bool true)
  else if cs = ['f', 'a', 'l', 's', 'e'] then some (.bool false)
  else match integer? cs with
    | some n => some (.number (.integer n))
    | none => (float? cs).map fun x => .number (.float x)

def isPlain (c : Char) : Bool := c.isAlphanum || c = '_' || c = '-' || c = '+' || c = '.'

def value (cs : List Char) : Option (Json × List Char) :=
  match cs with
  | '"' :: _ | '\'' :: _ => (text cs).map fun p => (.string p.1, p.2)
  | _ => (plain? (cs.takeWhile isPlain)).map fun v => (v, cs.dropWhile isPlain)

/-- One statement or empty line and its line end. -/
def statement (cs : List Char) : Option (Option Statement × List Char) :=
  match lineEnd? cs with
  | some rest => some (none, rest)
  | none =>
    match skipBlank cs with
    | '[' :: rest => do
      let (path, rest) ← key maxParts rest
      match rest with
      | ']' :: rest => return (some (.table path), ← lineEnd? rest)
      | _ => none
    | cs => do
      let (path, rest) ← key maxParts cs
      match rest with
      | '=' :: rest =>
        let (v, rest) ← value (skipBlank rest)
        return (some (.pair path v), ← lineEnd? rest)
      | _ => none

end Toml
end SynonymLookup
