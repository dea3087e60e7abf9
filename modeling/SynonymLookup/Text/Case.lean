import SynonymLookup.Text.CaseTable

/-! Lower and upper case of text: full mappings, one character to several where Unicode has it,
and the word-final form of sigma. Both ways of comparing without case go through `lowercase`. -/

namespace SynonymLookup
namespace Text

def CaseRange.covers (r : CaseRange) (code : Nat) : Bool :=
  r.first ≤ code && code ≤ r.last && (code - r.first) % r.step == 0

def inRanges (ranges : List (Nat × Nat)) (code : Nat) : Bool :=
  ranges.any fun r => r.1 ≤ code && code ≤ r.2

/-- The mapping of one character: its sequence, else its shift, else itself. -/
def mapChar (sequences : List (Nat × List Nat)) (ranges : List CaseRange) (c : Char) :
    List Char :=
  match sequences.lookup c.toNat with
  | some codes => codes.map Char.ofNat
  | none =>
    match ranges.find? (·.covers c.toNat) with
    | some r => [Char.ofNat (c.toNat + r.shift).toNat]
    | none => [c]

def isAscii (c : Char) : Bool := c.toNat < 0x80

def lowerChar (c : Char) : List Char :=
  if isAscii c then [c.toLower] else mapChar lowerSequences lowerRanges c

def upperChar (c : Char) : List Char :=
  if isAscii c then [c.toUpper] else mapChar upperSequences upperRanges c

def isCased (c : Char) : Bool :=
  if isAscii c then c.isAlpha else inRanges casedRanges c.toNat

def isCaseIgnorable (c : Char) : Bool := inRanges caseIgnorableRanges c.toNat

/-- The next character that is not case-ignorable is a letter with case. -/
def startsCased (cs : List Char) : Bool :=
  ((cs.dropWhile isCaseIgnorable).head?.map isCased).getD false

/-- Sigma is written in its final form after a cased letter and before none, where
case-ignorable characters do not count; `afterCased` is that state of the text to the left. -/
def lowerChars (afterCased : Bool) : List Char → List Char
  | [] => []
  | c :: rest =>
    let after := if isCaseIgnorable c then afterCased else isCased c
    if c = 'Σ' then
      (if afterCased && !startsCased rest then 'ς' else 'σ') :: lowerChars after rest
    else lowerChar c ++ lowerChars after rest

def lowercase (s : String) : String := String.ofList (lowerChars false s.toList)

def uppercase (s : String) : String := String.ofList (s.toList.flatMap upperChar)

/-- Equality without regard to case. -/
def sameIgnoringCase (a b : String) : Bool := lowercase a == lowercase b

theorem sameIgnoringCase_iff {a b : String} :
    sameIgnoringCase a b = true ↔ lowercase a = lowercase b := by simp [sameIgnoringCase]

end Text
end SynonymLookup
