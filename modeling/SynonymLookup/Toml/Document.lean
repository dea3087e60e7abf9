import SynonymLookup.Json.Overlay
import SynonymLookup.Toml.Statement

/-! TOML documents as values, where they have neither lists nor tables in braces nor dates. Every
table is defined at most once: by a header, or by the keys with points that lead into it. -/

namespace SynonymLookup
namespace Toml

/-- How something came to stand under a path. -/
inductive Origin where
  /-- On the way to another header; its own header may still follow. -/
  | onTheWay
  | header
  | dotted
  | value
deriving DecidableEq, Repr

structure Document where
  /-- The table that pairs go into. -/
  current : List String := []
  origins : List (List String × Origin) := []
  content : Json := .object []

namespace Document

def origin? (d : Document) (path : List String) : Option Origin := d.origins.lookup path

def mark (d : Document) (path : List String) (o : Origin) : Document :=
  { d with origins := (path, o) :: d.origins }

def place (d : Document) (path : List String) (v : Json) : Document :=
  { d with content := d.content.overlay (Json.nested path v) }

/-- The paths from below `start` up to but without `start ++ path`. -/
def between (start : List String) : List String → List (List String)
  | [] => []
  | [_] => []
  | name :: rest => (start ++ [name]) :: between (start ++ [name]) rest

/-- Goes through tables that may be extended, and marks the new ones. -/
def enter (through : Origin → Bool) (new : Origin) (d : Document) :
    List (List String) → Option Document
  | [] => some d
  | path :: rest =>
    match d.origin? path with
    | none => enter through new (d.mark path new) rest
    | some o => if through o then enter through new d rest else none

def add (d : Document) : Statement → Option Document
  | .table path => do
    let d ← d.enter (· != .value) .onTheWay (between [] path)
    match d.origin? path with
    | none | some .onTheWay =>
      return { (d.mark path .header).place path (.object []) with current := path }
    | some _ => none
  | .pair path v => do
    let tables := between d.current path
    let path := d.current ++ path
    let d ← d.enter (fun o => o == .dotted || o == .onTheWay) .dotted tables
    if tables.getLast?.any fun table => d.origin? table != some .dotted then none
    else match d.origin? path with
      | none => return (d.mark path .value).place path v
      | some _ => none

/-- The statements of a text one after the other; `fuel` bounds the number of lines. -/
def ofStatements? (d : Document) : (fuel : Nat) → List Char → Option Document
  | _, [] => some d
  | 0, _ => none
  | fuel + 1, cs => do
    match ← statement cs with
    | (none, rest) => ofStatements? d fuel rest
    | (some s, rest) => ofStatements? (← d.add s) fuel rest

end Document

/-- The value of a document, an object of its tables and keys. -/
def ofText? (text : String) : Option Json :=
  let cs := text.toList
  let cs := if cs.head? = some '\ufeff' then cs.drop 1 else cs
  (Document.ofStatements? {} cs.length cs).map (·.content)

end Toml
end SynonymLookup
