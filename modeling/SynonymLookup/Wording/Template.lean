import SynonymLookup.Json.Basic
import SynonymLookup.Text.Case
import SynonymLookup.Text.Pieces

/-! Wording templates: text with tokens that stand for a synonym and the labels around it. One pass
from left to right replaces them, the longest token first, and never looks at replaced text. -/

namespace SynonymLookup

/-- Which wordings are consulted, from none to the most specific. -/
inductive WordingType where
  | none
  | default
  | entity
  | provider
deriving DecidableEq, Repr, Inhabited

namespace WordingType

def all : List WordingType := [.none, .default, .entity, .provider]

def text : WordingType → String
  | .none => "none"
  | .default => "default"
  | .entity => "entity"
  | .provider => "provider"

def ofText? (s : String) : Option WordingType := all.find? (·.text == s)

def label : WordingType → String
  | .none => "No wording"
  | .default => "Default wording"
  | .entity => "Per entity type"
  | .provider => "Per entity type and field"

/-- Wordings of behaviors are consulted. -/
def usesBehavior : WordingType → Bool
  | .entity | .provider => true
  | _ => false

/-- Wordings of configurations are consulted. -/
def usesProvider : WordingType → Bool
  | .provider => true
  | _ => false

def ofJson? (j : Json) : Option WordingType := j.constant?.bind ofText?

def toJson (t : WordingType) : Json := .string t.text

instance : JsonForm WordingType := ⟨ofJson?, toJson⟩

end WordingType

namespace Wording

inductive Token where
  | synonym
  | entityLabel
  | fieldLabel
  | fieldLabelLower
  | fieldLabelUpper
  | bundleLabel
  | bundleLabelLower
  | bundleLabelUpper
deriving DecidableEq, Repr

namespace Token

def all : List Token := [synonym, entityLabel, fieldLabel, fieldLabelLower, fieldLabelUpper,
  bundleLabel, bundleLabelLower, bundleLabelUpper]

def spelling : Token → String
  | synonym => "@synonym"
  | entityLabel => "@entity_label"
  | fieldLabel => "@Field_label"
  | fieldLabelLower => "@field_label"
  | fieldLabelUpper => "@FIELD_LABEL"
  | bundleLabel => "@Bundle"
  | bundleLabelLower => "@bundle"
  | bundleLabelUpper => "@BUNDLE"

def description : Token → String
  | synonym => "The synonym value"
  | entityLabel => "The label of the entity this synonym belongs to"
  | fieldLabel => "The label of the provider field"
  | fieldLabelLower => "The lowercase label of the provider field"
  | fieldLabelUpper => "The uppercase label of the provider field"
  | bundleLabel => "The label of the entity bundle"
  | bundleLabelLower => "The lowercase label of the entity bundle"
  | bundleLabelUpper => "The uppercase label of the entity bundle"

end Token

/-- One line that lists all tokens. -/
def tokensHelp : String :=
  ", ".intercalate (Token.all.map fun t => t.spelling ++ ": " ++ t.description) ++ "."

/-- What the tokens of a template stand for. -/
structure Values where
  synonym : String := ""
  entityLabel : String := ""
  fieldLabel : String := ""
  bundleLabel : String := ""

def Values.get (v : Values) : Token → String
  | .synonym => v.synonym
  | .entityLabel => v.entityLabel
  | .fieldLabel => v.fieldLabel
  | .fieldLabelLower => Text.lowercase v.fieldLabel
  | .fieldLabelUpper => Text.uppercase v.fieldLabel
  | .bundleLabel => v.bundleLabel
  | .bundleLabelLower => Text.lowercase v.bundleLabel
  | .bundleLabelUpper => Text.uppercase v.bundleLabel

/-- The tokens a text starts with. -/
def tokensAt (cs : List Char) : List Token :=
  Token.all.filter fun t => (Text.stripHead? t.spelling.toList cs).isSome

/-- Of two tokens the longer; the later one at equal length. -/
def longer (a b : Token) : Token :=
  if a.spelling.length ≤ b.spelling.length then b else a

/-- The longest token a text starts with. -/
def tokenAt? (cs : List Char) : Option Token :=
  match tokensAt cs with
  | [] => none
  | t :: rest => some (rest.foldl longer t)

/-- Walks the template; `skip` counts the characters of a token already replaced. -/
def renderChars (value : Token → List Char) : (skip : Nat) → List Char → List Char
  | _, [] => []
  | skip + 1, _ :: rest => renderChars value skip rest
  | 0, c :: rest =>
    match tokenAt? (c :: rest) with
    | some t => value t ++ renderChars value (t.spelling.length - 1) rest
    | none => c :: renderChars value 0 rest

def render (template : String) (values : Values) : String :=
  String.ofList (renderChars (fun t => (values.get t).toList) 0 template.toList)

/-- The template where no other is configured. -/
def fallback : String := "@synonym"

end Wording

end SynonymLookup
