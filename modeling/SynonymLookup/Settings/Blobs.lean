import SynonymLookup.Json.Record
import SynonymLookup.Text.Pieces

/-! Settings: one JSON value under each key, and values of a type read from and written to it. -/

namespace SynonymLookup

/-- Settings values by key. -/
abbrev Blobs := KeyMap Json

namespace Blobs

/-- The keys with the given beginning, in order. -/
def keysFrom (b : Blobs) (head : String) : List String :=
  b.keys.filter fun k => Text.startsWith k head

end Blobs

/-- A type whose values are kept as settings. Where a value is not of its form, `complaint?` may say
why. -/
class Stored (α : Type) extends JsonForm α where
  complaint? : Json → Option String := fun _ => none

end SynonymLookup
