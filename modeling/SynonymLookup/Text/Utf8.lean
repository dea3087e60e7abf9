/-! Bytes as UTF-8 text. Strict decoding refuses what is not well-formed; lenient decoding replaces
each longest start of a character that does not go on, and each byte that starts none, by U+FFFD. -/

namespace SynonymLookup
namespace Text

/-- The bytes that may follow a first byte directly, and how many follow in all. -/
structure Sequence where
  low : Nat
  high : Nat
  more : Nat

def sequence? (first : Nat) : Option Sequence :=
  if 0xC2 ≤ first ∧ first ≤ 0xDF then some ⟨0x80, 0xBF, 1⟩
  else if first = 0xE0 then some ⟨0xA0, 0xBF, 2⟩
  else if first = 0xED then some ⟨0x80, 0x9F, 2⟩
  else if 0xE1 ≤ first ∧ first ≤ 0xEF then some ⟨0x80, 0xBF, 2⟩
  else if first = 0xF0 then some ⟨0x90, 0xBF, 3⟩
  else if 0xF1 ≤ first ∧ first ≤ 0xF3 then some ⟨0x80, 0xBF, 3⟩
  else if first = 0xF4 then some ⟨0x80, 0x8F, 3⟩
  else none

def leadBits (first more : Nat) : Nat :=
  if more = 1 then first - 0xC0 else if more = 2 then first - 0xE0 else first - 0xF0

/-- A state between bytes: between characters, or inside one whose first bytes are read. -/
inductive Pending where
  | none
  | some (value : Nat) (low high more : Nat)

def replacement : Char := '\ufffd'

/-- Characters decoded one byte at a time; `none` marks what is not well-formed. -/
def decodeBytes : Pending → List Nat → List (Option Char)
  | .none, [] => []
  | .some .., [] => [.none]
  | .none, b :: rest =>
    if b < 0x80 then .some (Char.ofNat b) :: decodeBytes .none rest
    else match sequence? b with
      | .some s => decodeBytes (.some (leadBits b s.more) s.low s.high s.more) rest
      | .none => .none :: decodeBytes .none rest
  | .some value low high more, b :: rest =>
    if low ≤ b ∧ b ≤ high then
      let value := value * 64 + (b - 0x80)
      if more ≤ 1 then .some (Char.ofNat value) :: decodeBytes .none rest
      else decodeBytes (.some value 0x80 0xBF (more - 1)) rest
    else if b < 0x80 then .none :: .some (Char.ofNat b) :: decodeBytes .none rest
    else match sequence? b with
      | .some s => .none :: decodeBytes (.some (leadBits b s.more) s.low s.high s.more) rest
      | .none => .none :: .none :: decodeBytes .none rest

def decodeLenient (bytes : List Nat) : List Char :=
  (decodeBytes .none bytes).map (·.getD replacement)

def decodeStrict? (bytes : List Nat) : Option (List Char) := (decodeBytes .none bytes).mapM id

/-- The characters that so many bytes of the text spell, if the last byte ends a character. -/
def takeBytes? : (count : Nat) → List Char → Option (List Char)
  | 0, _ => some []
  | _ + 1, [] => none
  | count + 1, c :: rest =>
    if c.utf8Size ≤ count + 1 then (takeBytes? (count + 1 - c.utf8Size) rest).map (c :: ·) else none

def utf8Bytes (s : String) : List Nat := s.toUTF8.toList.map (·.toNat)

end Text
end SynonymLookup
