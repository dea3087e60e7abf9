/-! Binary floating point of 64 bits. A finite value is counted in units of 2^-1074, the spacing of
the smallest values, so its order is the order of integers; rounding is to the nearest value, and
a tie goes to the even significand. -/

namespace SynonymLookup

inductive Binary64 where
  | finite (negative : Bool) (units : Nat)
  | infinite (negative : Bool)
  | nan
deriving DecidableEq, Repr, Inhabited

namespace Binary64

/-- How many units make one. -/
def unitsPerOne : Nat := Nat.pow 2 1074

/-- The first magnitude that no finite value reaches. -/
def unitBound : Nat := Nat.pow 2 (1024 + 1074)

/-- `num / den` to the nearest integer, a half to the even neighbour. -/
def roundHalfEven (num den : Nat) : Nat :=
  let q := num / den
  let r := num % den
  if 2 * r < den then q
  else if den < 2 * r then q + 1
  else if q % 2 = 0 then q else q + 1

/-- By how many bits a magnitude exceeds a significand of 53 bits. -/
def excess (units : Nat) : Nat := units.log2 - 52

/-- The value nearest to `num / den`. -/
def ofRatio (negative : Bool) (num den : Nat) : Binary64 :=
  let scaled := num * unitsPerOne
  let spacing := Nat.pow 2 (excess (scaled / den))
  let units := roundHalfEven scaled (den * spacing) * spacing
  if units < unitBound then .finite negative units else .infinite negative

def ofNat (n : Nat) : Binary64 := ofRatio false n 1

def zero (negative : Bool) : Binary64 := .finite negative 0

/-- The value nearest to `significand · 10^exponent`. Exponents that decide the outcome alone are
answered without the power. -/
def ofDecimal (negative : Bool) (significand : Nat) (exponent : Int) : Binary64 :=
  if significand = 0 then zero negative
  else if 0 ≤ exponent then
    if 400 < exponent then .infinite negative
    else ofRatio negative (significand * Nat.pow 10 exponent.toNat) 1
  else if (significand.log2 : Int) + 1100 < 3 * -exponent then zero negative
  else ofRatio negative significand (Nat.pow 10 (-exponent).toNat)

def isFinite : Binary64 → Bool
  | .finite .. => true
  | _ => false

def negate : Binary64 → Binary64
  | .finite s u => .finite (!s) u
  | .infinite s => .infinite (!s)
  | .nan => .nan

/-- The order of numbers; nothing compares with `nan`, and the two zeros are equal. -/
def compare? : Binary64 → Binary64 → Option Ordering
  | .nan, _ | _, .nan => none
  | .infinite s, .infinite t => some (if s = t then .eq else if s then .lt else .gt)
  | .infinite s, .finite .. => some (if s then .lt else .gt)
  | .finite .., .infinite t => some (if t then .gt else .lt)
  | .finite s u, .finite t v =>
    let x : Int := if s then -u else u
    let y : Int := if t then -v else v
    some (compare x y)

theorem compare?_nan_left (x : Binary64) : compare? .nan x = none := by cases x <;> rfl

theorem compare?_nan_right (x : Binary64) : compare? x .nan = none := by cases x <;> rfl

end Binary64

end SynonymLookup
