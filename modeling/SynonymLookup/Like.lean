import SynonymLookup.Json.Basic
import SynonymLookup.Text.Case

/-! LIKE patterns: `%` stands for any text, `_` for one character, and a backslash makes the next
character stand for itself. Pattern and text are compared in lower case. -/

namespace SynonymLookup
namespace Like

inductive Token where
  | exactly (c : Char)
  | anyOne
  | anyMany
deriving DecidableEq, Repr

def tokens : List Char → List Token
  | [] => []
  | '\\' :: c :: rest => .exactly c :: tokens rest
  | c :: rest =>
    (if c = '%' then .anyMany else if c = '_' then .anyOne else .exactly c) :: tokens rest

/-- Puts a backslash before each character that a pattern would not take as itself. -/
def escape (s : String) : String :=
  String.ofList (s.toList.flatMap fun c => if c = '%' ∨ c = '_' ∨ c = '\\' then ['\\', c] else [c])

/-- One entry for each length of a beginning of the text, from zero on: whether the tokens
so far match the beginning. -/
abbrev Row := Array Bool

namespace Row

/-- The row over a text in which nothing is matched. -/
def blank (text : Array Char) : Row := Array.replicate (text.size + 1) false

/-- Sets an entry; a row has none behind that of the whole text. -/
def put? (row : Row) (j : Nat) (entry : Bool) : Option Row :=
  if h : j < row.size then some (row.set j entry) else none

/-- The row whose entries, from the second on, are made from the place before each. -/
def shifted? (text : Array Char) (read : Nat → Option Bool) : Option Row :=
  (List.range' 1 text.size).foldlM (fun next j => do next.put? j (← read (j - 1))) (blank text)

/-- The row whose entries hold as soon as one of the given row does. -/
def spread? (text : Array Char) (matched : Row) : Option Row := do
  let (next, _) ← (List.range (text.size + 1)).foldlM
    (fun (next, reachable) j => do
      let reachable := reachable || (← matched[j]?)
      return (← next.put? j reachable, reachable))
    (blank text, false)
  return next

end Row

/-- The row of one token more. -/
def step? (text : Array Char) (matched : Row) : Token → Option Row
  | .anyMany => Row.spread? text matched
  | .anyOne => Row.shifted? text fun i => matched[i]?
  | .exactly c => Row.shifted? text fun i => do
    if ← matched[i]? then return (← text[i]?) == c else return false

/-- Whether the tokens match the whole text; nothing if a row or the text is left on the way. -/
def matchTokens? (pattern : List Token) (text : Array Char) : Option Bool := do
  let start ← (Row.blank text).put? 0 true
  let last ← pattern.foldlM (step? text) start
  last[text.size]?

/-- The whole text matches the pattern. -/
def isMatch (pattern text : String) : Bool :=
  (matchTokens? (tokens (Text.lowercase pattern).toList)
    (Text.lowercase text).toList.toArray).getD false

end Like

/-- How a keyword is looked for in labels and synonyms. -/
inductive MatchMode where
  | contains
  | startsWith
deriving DecidableEq, Repr, Inhabited

namespace MatchMode

def text : MatchMode → String
  | contains => "CONTAINS"
  | startsWith => "STARTS_WITH"

def ofText? (s : String) : Option MatchMode :=
  [contains, startsWith].find? (·.text == s)

def ofJson? (j : Json) : Option MatchMode := j.constant?.bind ofText?

def toJson (m : MatchMode) : Json := .string m.text

instance : JsonForm MatchMode := ⟨ofJson?, toJson⟩

/-- The pattern of the texts that contain the keyword, or start with it. -/
def pattern (m : MatchMode) (keyword : String) : String :=
  match m with
  | contains => "%" ++ Like.escape keyword ++ "%"
  | startsWith => Like.escape keyword ++ "%"

end MatchMode

end SynonymLookup
