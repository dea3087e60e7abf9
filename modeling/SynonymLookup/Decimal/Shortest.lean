import SynonymLookup.Decimal.Binary64

/-! The fewest decimal digits that read back as a given binary64 value, and of those the nearest. -/

namespace SynonymLookup
namespace Binary64

/-- The reals that round to a finite magnitude, in quarter units: between the midpoints to its two
neighbours, ends included for an even significand. -/
structure RoundingInterval where
  low : Nat
  high : Nat
  closed : Bool

def roundingInterval (units : Nat) : RoundingInterval :=
  let shift := excess units
  let spacing := Nat.pow 2 shift
  let significand := units / spacing
  let gapBelow := if significand = Nat.pow 2 52 ∧ 0 < shift then spacing else 2 * spacing
  ⟨4 * units - gapBelow, 4 * units + 2 * spacing, significand % 2 = 0⟩

/-- A fraction of quarter units lies in the interval. -/
def RoundingInterval.holds (i : RoundingInterval) (num den : Nat) : Bool :=
  if i.closed then i.low * den ≤ num && num ≤ i.high * den
  else i.low * den < num && num < i.high * den

/-- Quarter units in one. -/
def quartersPerOne : Nat := 4 * unitsPerOne

/-- The exponent of the first decimal digit of a positive magnitude. -/
def leadingExponent (units : Nat) : Int :=
  if unitsPerOne ≤ units then ((toString (units / unitsPerOne)).length : Int) - 1
  else match (List.range 330).find? fun k => unitsPerOne ≤ units * Nat.pow 10 (k + 1) with
    | some k => -((k : Int) + 1)
    | none => -330

/-- The multiple `count · 10^place` as a fraction of quarter units. -/
def gridPoint (count : Nat) (place : Int) : Nat × Nat :=
  if 0 ≤ place then (count * Nat.pow 10 place.toNat * quartersPerOne, 1)
  else (count * quartersPerOne, Nat.pow 10 (-place).toNat)

/-- Of the two multiples of `10^place` around a magnitude, the one that reads back; of two such
the nearer, and the even one at equal distance. -/
def nearestOnGrid (units : Nat) (place : Int) : Option Nat :=
  let i := roundingInterval units
  let below :=
    if 0 ≤ place then units / (unitsPerOne * Nat.pow 10 place.toNat)
    else units * Nat.pow 10 (-place).toNat / unitsPerOne
  let (lowNum, den) := gridPoint below place
  let (highNum, _) := gridPoint (below + 1) place
  match 0 < below && i.holds lowNum den, i.holds highNum den with
  | true, true =>
    let toLow := 4 * units * den - lowNum
    let toHigh := highNum - 4 * units * den
    if toLow < toHigh then some below
    else if toHigh < toLow then some (below + 1)
    else some (if below % 2 = 0 then below else below + 1)
  | true, false => some below
  | false, true => some (below + 1)
  | false, false => none

/-- A positive decimal number `digits · 10^place` without zeros at the end of its digits. -/
structure DecimalForm where
  digits : Nat
  place : Int
deriving DecidableEq, Repr

def DecimalForm.strip : (fuel : Nat) → DecimalForm → DecimalForm
  | 0, d => d
  | fuel + 1, d =>
    if d.digits % 10 = 0 then strip fuel ⟨d.digits / 10, d.place + 1⟩ else d

/-- Tries one digit, two, and so on; seventeen always read back, so the default is never met. -/
def shortest (units : Nat) : DecimalForm :=
  let first := leadingExponent units
  let found := (List.range 17).findSome? fun (more : Nat) =>
    let place := first - more
    (nearestOnGrid units place).map fun digits => DecimalForm.mk digits place
  (found.getD ⟨0, 0⟩).strip 20

end Binary64
end SynonymLookup
