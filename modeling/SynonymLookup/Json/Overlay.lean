import SynonymLookup.Json.Basic

/-! Laying one value over another: objects are joined name by name at every depth, and elsewhere the
upper value counts. -/

namespace SynonymLookup
namespace Json

mutual

def overlay (lower : Json) : Json → Json
  | object upper =>
    match lower with
    | object fields => object (overlayFields fields upper)
    | _ => object upper
  | upper => upper

def overlayFields (lower : List (String × Json)) : List (String × Json) → List (String × Json)
  | [] => lower
  | (name, value) :: rest =>
    let joined := match KeyMap.findEntry name lower with
      | some below => overlay below value
      | none => value
    overlayFields (KeyMap.insertEntry name joined lower) rest

end

/-- The layers from the lowest to the highest. -/
def overlayAll (base : Json) (layers : List Json) : Json := layers.foldl overlay base

@[simp] theorem overlayAll_nil (base : Json) : overlayAll base [] = base := rfl

@[simp] theorem overlayAll_cons (base layer : Json) (layers : List Json) :
    overlayAll base (layer :: layers) = overlayAll (base.overlay layer) layers := rfl

/-- A value at the end of a path of names. -/
def nested (path : List String) (value : Json) : Json :=
  path.foldr (fun name inner => object [(name, inner)]) value

/-- The value at the end of a path of names. -/
def at? (path : List String) (j : Json) : Option Json :=
  path.foldl (fun j name => j.bind (field? name)) (some j)

end Json
end SynonymLookup
