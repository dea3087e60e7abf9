import SynonymLookup.Error
import SynonymLookup.Json.Record
import SynonymLookup.Wording.Template

/-! Settings of a provider and the forms that edit them. A form knows the wording alone; other
submitted keys are kept as they are. -/

namespace SynonymLookup

structure ProviderConfiguration where
  wording : String := ""
  /-- Settings of no meaning here, side by side with the wording when written. -/
  extra : KeyMap Json := .empty
deriving Inhabited

namespace ProviderConfiguration

def ofJson? (j : Json) : Option ProviderConfiguration := do
  let r ← j.openRecord? ["wording"]
  return {
    wording := ← r.withDefault "wording" Json.string? ""
    extra := ← r.others? ["wording"] }

def toJson (c : ProviderConfiguration) : Json :=
  Json.ofFields (("wording", .string c.wording) :: c.extra.entries)

instance : JsonForm ProviderConfiguration := ⟨ofJson?, toJson⟩

end ProviderConfiguration

def FormError.toJson (e : FormError) : Json := Json.ofFields [
  ("element", .string e.element), ("message", .string e.message)]

inductive FormElementKind where
  | textfield
  | checkbox
deriving DecidableEq, Repr

def FormElementKind.text : FormElementKind → String
  | textfield => "textfield"
  | checkbox => "checkbox"

def FormElementKind.ofText? (s : String) : Option FormElementKind :=
  [textfield, checkbox].find? (·.text == s)

structure FormElement where
  key : String
  kind : FormElementKind
  title : String
  description : Option String := none
  defaultValue : Json := .null

namespace FormElement

def textfield (key title defaultValue : String) : FormElement :=
  { key, kind := .textfield, title, defaultValue := .string defaultValue }

def checkbox (key title : String) (checked : Bool) : FormElement :=
  { key, kind := .checkbox, title, defaultValue := .bool checked }

def withDescription (e : FormElement) (description : String) : FormElement :=
  { e with description := some description }

def ofJson? (j : Json) : Option FormElement := do
  let r ← j.record? ["key", "kind", "title", "description", "default_value"]
  return {
    key := ← r.required "key" Json.string?
    kind := ← r.required "kind" fun j => j.constant?.bind FormElementKind.ofText?
    title := ← r.required "title" Json.string?
    description := ← r.optional "description" Json.string?
    defaultValue := (r.get? "default_value").getD .null }

/-- A missing description is left out. -/
def toJson (e : FormElement) : Json := Json.ofFields
  ([("key", .string e.key), ("kind", .string e.kind.text), ("title", .string e.title),
    ("default_value", e.defaultValue)] ++
    (e.description.map fun d => ("description", Json.string d)).toList)

instance : JsonForm FormElement := ⟨ofJson?, toJson⟩

end FormElement

namespace ProviderConfiguration

/-- The wording can be edited only where provider wordings are consulted. -/
def form (c : ProviderConfiguration) (wordingType : WordingType) : List FormElement :=
  if wordingType.usesProvider then
    [(FormElement.textfield "wording" "Wording for this provider" c.wording).withDescription
      ("Specify the wording with which this entry should be presented. " ++
        "Available replacement tokens are: " ++ Wording.tokensHelp)]
  else []

/-- What is wrong with submitted values. -/
def formErrors (values : Json) : List FormError :=
  match values with
  | .object fields =>
    match KeyMap.findEntry "wording" fields with
    | none | some .null | some (.string _) => []
    | some _ => [⟨"wording", "wording must be a string"⟩]
  | _ => [⟨"", "form values must be an object"⟩]

/-- The settings with submitted values put in. -/
def submit (c : ProviderConfiguration) (values : Json) : ProviderConfiguration :=
  (values.fields?.getD []).foldl (fun c f =>
    if f.1 = "wording" then { c with wording := f.2.string?.getD "" }
    else { c with extra := c.extra.insert f.1 f.2 }) c

end ProviderConfiguration

end SynonymLookup
