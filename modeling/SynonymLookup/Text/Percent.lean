import SynonymLookup.Text.Pieces
import SynonymLookup.Text.Utf8

/-! Percent-encoded text: a percent sign with two hexadecimal digits stands for a byte, and any
other percent sign for itself. The pairs of a form also write a plus sign for a space. -/

namespace SynonymLookup
namespace Text

def percentSign : Nat := 0x25

/-- The value of a hexadecimal digit, given as a byte. -/
def hexDigit? (byte : Nat) : Option Nat :=
  if 0x30 ≤ byte ∧ byte ≤ 0x39 then some (byte - 0x30)
  else if 0x41 ≤ byte ∧ byte ≤ 0x46 then some (byte - 0x41 + 10)
  else if 0x61 ≤ byte ∧ byte ≤ 0x66 then some (byte - 0x61 + 10)
  else none

/-- The byte that three bytes stand for together. -/
def escaped? (sign high low : Nat) : Option Nat :=
  if sign = percentSign then do return (← hexDigit? high) * 16 + (← hexDigit? low) else none

def percentBytes : List Nat → List Nat
  | a :: b :: c :: rest =>
    match escaped? a b c with
    | some byte => byte :: percentBytes rest
    | none => a :: percentBytes (b :: c :: rest)
  | short => short

/-- A part of a path; `none` where its bytes are not UTF-8. -/
def ofPathPart? (s : String) : Option String :=
  (decodeStrict? (percentBytes (utf8Bytes s))).map String.ofList

/-- A name or value in a form. -/
def ofFormPart (s : String) : String :=
  String.ofList (decodeLenient (percentBytes (utf8Bytes (replaceChar '+' ' ' s))))

/-- The pairs of a form in order. Empty pairs are skipped, and a pair without an equals sign has an
empty value. -/
def formPairs (form : String) : List (String × String) :=
  ((split '&' form).filter fun pair => !pair.isEmpty).map fun pair =>
    match cut '=' pair with
    | some (name, value) => (ofFormPart name, ofFormPart value)
    | none => (ofFormPart pair, "")

end Text
end SynonymLookup
