import SynonymLookup.Json.Reader

/-! Texts in TOML: in double quotes with escapes, in single quotes as they stand, and both also over
several lines between tripled quotes. -/

namespace SynonymLookup
namespace Toml

/-- What is read, with the rest of the text. -/
abbrev Reader (α : Type) := List Char → Option (α × List Char)

def skipBlank (cs : List Char) : List Char := cs.dropWhile fun c => c = ' ' || c = '\t'

/-- What follows a line end. -/
def newline? : List Char → Option (List Char)
  | '\n' :: rest => some rest
  | '\r' :: '\n' :: rest => some rest
  | _ => none

/-- Passes over blanks and line ends. -/
def skipBlankLines : List Char → List Char
  | [] => []
  | '\r' :: '\n' :: rest => skipBlankLines rest
  | c :: rest => if c = ' ' ∨ c = '\t' ∨ c = '\n' then skipBlankLines rest else c :: rest

def isControl (c : Char) : Bool := (c.toNat < 0x20 && c != '\t') || c.toNat == 0x7F

/-- The value of some hexadecimal digits. -/
def hexNumber? (ds : List Char) : Option Nat :=
  ds.foldlM (fun n c => (Json.Reader.hexValue? c).map (n * 16 + ·)) 0

def scalar? (ds : List Char) : Option Char := do
  let n ← hexNumber? ds
  if n.isValidChar then some (Char.ofNat n) else none

/-- The character that a backslash and what is read stand for. -/
def escaped : Reader Char
  | 'u' :: a :: b :: c :: d :: rest => (scalar? [a, b, c, d]).map fun x => (x, rest)
  | 'U' :: a :: b :: c :: d :: e :: f :: g :: h :: rest =>
    (scalar? [a, b, c, d, e, f, g, h]).map fun x => (x, rest)
  | c :: rest =>
    ([('b', '\x08'), ('t', '\t'), ('n', '\n'), ('f', '\x0c'), ('r', '\r'), ('"', '"'),
      ('\\', '\\')].lookup c).map fun x => (x, rest)
  | [] => none

/-- A character that stands for itself. -/
def plainChar : Reader (List Char)
  | c :: rest => if isControl c then none else some ([c], rest)
  | [] => none

/-- A character or an escape. -/
def basicPiece : Reader (List Char)
  | '\\' :: rest => (escaped rest).map fun p => ([p.1], p.2)
  | cs => plainChar cs

/-- A line end, however it is written. -/
def lineBreak : Reader (List Char) := fun cs => (newline? cs).map fun rest => (['\n'], rest)

/-- A backslash at the end of a line joins it to the next characters that are not blank. -/
def basicLinePiece (cs : List Char) : Option (List Char × List Char) :=
  match cs with
  | '\\' :: rest =>
    match newline? (skipBlank rest) with
    | some rest => some ([], skipBlankLines rest)
    | none => basicPiece cs
  | _ => (lineBreak cs).orElse fun _ => basicPiece cs

def literalLinePiece (cs : List Char) : Option (List Char × List Char) :=
  (lineBreak cs).orElse fun _ => plainChar cs

/-- One quote ends a line of text. -/
def endQuote (quote : Char) : Reader (List Char)
  | c :: rest => if c = quote then some ([], rest) else none
  | [] => none

/-- Three quotes end a text of several lines, and up to two before them belong to it. -/
def endQuotes (quote : Char) (cs : List Char) : Option (List Char × List Char) :=
  let run := min (cs.takeWhile (· = quote)).length 5
  if run < 3 then none else some (List.replicate (run - 3) quote, cs.drop run)

/-- Pieces up to the end; `fuel` bounds their number. -/
def pieces (piece finish : Reader (List Char)) : (fuel : Nat) → Reader (List Char)
  | 0, _ => none
  | fuel + 1, cs =>
    match finish cs with
    | some p => some p
    | none => do
      let (first, rest) ← piece cs
      let (more, rest) ← pieces piece finish fuel rest
      return (first ++ more, rest)

def textOf (piece finish : Reader (List Char)) : Reader String := fun cs =>
  (pieces piece finish (cs.length + 1) cs).map fun p => (String.ofList p.1, p.2)

/-- A text on one line, as keys are quoted. -/
def quoted : Reader String
  | '"' :: rest => textOf basicPiece (endQuote '"') rest
  | '\'' :: rest => textOf plainChar (endQuote '\'') rest
  | _ => none

/-- A text as a value. A line end right after the opening quotes does not count. -/
def text : Reader String
  | '"' :: '"' :: '"' :: rest =>
    textOf basicLinePiece (endQuotes '"') ((newline? rest).getD rest)
  | '\'' :: '\'' :: '\'' :: rest =>
    textOf literalLinePiece (endQuotes '\'') ((newline? rest).getD rest)
  | cs => quoted cs

end Toml
end SynonymLookup
