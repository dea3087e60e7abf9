/-! What can go wrong, by cause, and the wording of each cause. -/

namespace SynonymLookup

/-- Failures of the stores behind the services. -/
inductive StorageError where
  | unknownEntityType (id : String)
  | unknownColumn (entityType column : String)
  | unresolvedPlaceholder (placeholder : String)
  | invalidCondition (reason : String)
  | malformedValue (key : String) (detail : Option String)
  | backend (reason : String)
deriving DecidableEq, Repr

namespace StorageError

def message : StorageError → String
  | unknownEntityType id => "Unknown entity type: " ++ id
  | unknownColumn t c => "Unknown column '" ++ c ++ "' on entity type '" ++ t ++ "'"
  | unresolvedPlaceholder p => "Unresolved condition placeholder: " ++ p
  | invalidCondition r => "Invalid condition: " ++ r
  | malformedValue k none => "Malformed value for '" ++ k ++ "'"
  | malformedValue k (some d) => "Malformed value for '" ++ k ++ "': " ++ d
  | backend r => "Storage backend error: " ++ r

/-- The query was badly built; data and backend are not at fault. -/
def isQueryDefect : StorageError → Bool
  | unresolvedPlaceholder _ | unknownColumn .. | invalidCondition _ => true
  | _ => false

end StorageError

/-- A complaint about one element of a submitted form. -/
structure FormError where
  element : String
  message : String
deriving DecidableEq, Repr

def FormError.text (e : FormError) : String := e.element ++ ": " ++ e.message

/-- Failures of providers, configurations and lookups. -/
inductive LookupError where
  | unknownProvider (plugin : String)
  | configurationNotFound (id : String)
  | unknownEntityType (id : String)
  | preconditionFailed (reason : String)
  | validation (errors : List FormError)
  | storage (error : StorageError)
deriving DecidableEq, Repr

namespace LookupError

def message : LookupError → String
  | unknownProvider p => "Unknown provider plugin: " ++ p
  | configurationNotFound id => "Configuration not found: " ++ id
  | unknownEntityType id => "Unknown entity type: " ++ id
  | preconditionFailed r => "Precondition failed: " ++ r
  | validation errors => "Validation failed: " ++ "; ".intercalate (errors.map FormError.text)
  | storage e => e.message

def isQueryDefect : LookupError → Bool
  | storage e => e.isQueryDefect
  | _ => false

def ofElement (element message : String) : LookupError := validation [⟨element, message⟩]

end LookupError

end SynonymLookup
