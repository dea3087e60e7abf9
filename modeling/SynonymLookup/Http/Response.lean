import SynonymLookup.Error
import SynonymLookup.Json.Basic

/-! Responses: a status with a JSON body, and how refused requests are answered. -/

namespace SynonymLookup

/-- The fault lies with the backend, or with a query built here. -/
def LookupError.isInternal : LookupError → Bool
  | storage (.unknownEntityType _) => false
  | storage _ => true
  | _ => false

namespace Http

structure Response where
  status : Nat
  /-- Absent where the answer is not JSON. -/
  body : Option Json

inductive Refusal where
  | unknownPath
  | methodNotAllowed
  /-- A parameter is repeated or is not text. -/
  | unreadable
  | missingParameter (name : String)
  | noEntity (entityType id : String)
  | lookup (error : LookupError)
deriving DecidableEq, Repr

namespace Refusal

def status : Refusal → Nat
  | unknownPath => 404
  | methodNotAllowed => 405
  | unreadable => 400
  | missingParameter _ => 400
  | noEntity .. => 404
  | lookup e => if e.isInternal then 500 else 400

def message? : Refusal → Option String
  | missingParameter name => some ("Missing query parameter '" ++ name ++ "'")
  | noEntity entityType id => some ("No " ++ entityType ++ " entity with id " ++ id)
  | lookup e => some e.message
  | _ => none

def response (r : Refusal) : Response where
  status := r.status
  body := r.message?.map fun m => Json.ofFields [("error", .string m)]

end Refusal

def Response.ofResult : Except Refusal Json → Response
  | .ok body => ⟨200, some body⟩
  | .error r => r.response

end Http
end SynonymLookup
