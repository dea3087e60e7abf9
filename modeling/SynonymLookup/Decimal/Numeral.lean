import SynonymLookup.Decimal.Shortest

/-! Floating point numbers as text. Writing gives the shortest digits, positionally from 10^-5 up to
10^16 and always with a point there; reading takes signs, digits with an optional point and
exponent, and the words for infinity and not-a-number in any case. -/

namespace SynonymLookup
namespace Binary64

/-- Digits with the point after the first, and an exponent with its sign. -/
def scientificText (digits : List Char) (exponent : Int) : List Char :=
  let sign := if exponent < 0 then '-' else '+'
  let mantissa := match digits with
    | [] => []
    | [d] => [d]
    | d :: rest => d :: '.' :: rest
  mantissa ++ 'e' :: sign :: (toString exponent.natAbs).toList

/-- Digits around a point, with a zero where a side would be empty. -/
def positionalText (digits : List Char) (exponent : Int) : List Char :=
  if exponent < 0 then
    '0' :: '.' :: List.replicate (exponent.natAbs - 1) '0' ++ digits
  else
    let whole := exponent.toNat + 1
    let padded := digits ++ List.replicate (whole - digits.length) '0'
    let fraction := padded.drop whole
    padded.take whole ++ '.' :: (if fraction.isEmpty then ['0'] else fraction)

def magnitudeText (units : Nat) : List Char :=
  if units = 0 then ['0', '.', '0']
  else
    let d := shortest units
    let digits := (toString d.digits).toList
    let exponent := d.place + digits.length - 1
    if -5 ≤ exponent ∧ exponent < 16 then positionalText digits exponent
    else scientificText digits exponent

def text : Binary64 → String
  | .finite negative units =>
    String.ofList (if negative then '-' :: magnitudeText units else magnitudeText units)
  | .infinite negative => if negative then "-inf" else "inf"
  | .nan => "NaN"

def digitValue? (c : Char) : Option Nat :=
  if '0' ≤ c ∧ c ≤ '9' then some (c.toNat - '0'.toNat) else none

/-- Reads the digits at the front onto `acc`, counting them. -/
def takeDigits (acc count : Nat) : List Char → Nat × Nat × List Char
  | [] => (acc, count, [])
  | c :: rest =>
    match digitValue? c with
    | some d => takeDigits (acc * 10 + d) (count + 1) rest
    | none => (acc, count, c :: rest)

/-- An exponent part: the letter, an optional sign and at least one digit, to the end. -/
def exponentPart? : List Char → Option Int
  | [] => some 0
  | c :: rest =>
    if c = 'e' ∨ c = 'E' then
      let (negative, digits) := match rest with
        | '+' :: r => (false, r)
        | '-' :: r => (true, r)
        | r => (false, r)
      match takeDigits 0 0 digits with
      | (n, count, []) => if count = 0 then none else some (if negative then -(n : Int) else n)
      | _ => none
    else none

def ofUnsignedDigits? (negative : Bool) (cs : List Char) : Option Binary64 :=
  let (whole, wholeCount, rest) := takeDigits 0 0 cs
  let (all, fractionCount, rest) := match rest with
    | '.' :: r => takeDigits whole 0 r
    | r => (whole, 0, r)
  if wholeCount + fractionCount = 0 then none
  else (exponentPart? rest).map fun e => ofDecimal negative all (e - fractionCount)

def ofUnsigned? (negative : Bool) (cs : List Char) : Option Binary64 :=
  let word := cs.map Char.toLower
  if word = ['i', 'n', 'f'] ∨ word = ['i', 'n', 'f', 'i', 'n', 'i', 't', 'y'] then
    some (.infinite negative)
  else if word = ['n', 'a', 'n'] then some .nan
  else ofUnsignedDigits? negative cs

/-- The number a text spells, rounded to the nearest value. -/
def ofText? (s : String) : Option Binary64 :=
  match s.toList with
  | '+' :: cs => ofUnsigned? false cs
  | '-' :: cs => ofUnsigned? true cs
  | cs => ofUnsigned? false cs

end Binary64
end SynonymLookup
