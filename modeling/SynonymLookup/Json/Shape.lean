/-! What is wanted of a written value. A reader passes over the fields that a record does not name:
they have to be well-formed, but they may hold what no value can. -/

namespace SynonymLookup
namespace Json

inductive Shape where
  /-- Everything. -/
  | value
  | list (item : Shape)
  | map (entry : Shape)
  | record (fields : List (String × Shape))
deriving Inhabited

namespace Shape

/-- A record of fields that are wanted as they are. -/
def ofNames (names : List String) : Shape := record (names.map fun name => (name, value))

/-- What is wanted of the item of an array at a place. In an array, the values of a record's fields
stand in their order. -/
def item (place : Nat) : Shape → Shape
  | list item => item
  | record fields => ((fields[place]?).map (·.2)).getD value
  | _ => value

/-- What is wanted of the field of a name, if anything is. -/
def field? (name : String) : Shape → Option Shape
  | record fields => fields.lookup name
  | map entry => some entry
  | _ => some value

end Shape

end Json
end SynonymLookup
