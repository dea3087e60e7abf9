import Mathlib.Data.List.Basic
import SynonymLookup.Json.Overlay
import SynonymLookup.Proofs.KeyMap

/-! Layers of values. What stands at the end of a path is settled by the last layer
that says anything about it: one that holds something there, or that holds something
other than an object on the way. -/

namespace SynonymLookup
namespace Json

@[simp] theorem at?_nil (j : Json) : at? [] j = some j := rfl

theorem foldl_bind_none (path : List String) :
    path.foldl (fun j name => j.bind (field? name)) none = none := by
  induction path with
  | nil => rfl
  | cons name rest ih => exact ih

@[simp] theorem at?_cons (name : String) (rest : List String) (j : Json) :
    at? (name :: rest) j = (j.field? name).bind (at? rest) := by
  simp only [at?, List.foldl_cons, Option.bind_some]
  cases j.field? name with
  | none => exact foldl_bind_none rest
  | some v => rfl

theorem at?_append (path more : List String) (j : Json) :
    at? (path ++ more) j = (at? path j).bind (at? more) := by
  induction path generalizing j with
  | nil => rfl
  | cons name rest ih =>
    rw [List.cons_append, at?_cons, at?_cons]
    cases j.field? name with
    | none => rfl
    | some v => exact ih v

def isTable : Json → Bool
  | object _ => true
  | _ => false

/-- What stands at the end of a path, if it is no object. -/
def leaf? (path : List String) (j : Json) : Option Json := (at? path j).filter fun v => !v.isTable

/-- A value holds something at the end of a path, or something other than an object on the way. -/
def decides : List String → Json → Bool
  | name :: rest, object fields =>
    match KeyMap.findEntry name fields with
    | some v => decides rest v
    | none => false
  | _, _ => true

theorem decides_of_not_isTable (path : List String) {j : Json} (h : j.isTable = false) :
    decides path j = true := by
  cases path with
  | nil => rfl
  | cons name rest =>
    cases j with
    | object fields => cases h
    | _ => rfl

theorem leaf?_nil (j : Json) : leaf? [] j = if j.isTable then none else some j := by
  cases h : j.isTable <;> simp [leaf?, Option.filter, h]

theorem leaf?_cons (name : String) (rest : List String) (j : Json) :
    leaf? (name :: rest) j = (j.field? name).bind (leaf? rest) := by
  unfold leaf?
  rw [at?_cons]
  cases j.field? name <;> rfl

theorem leaf?_of_not_decides {path : List String} {j : Json} (h : decides path j = false) :
    leaf? path j = none := by
  induction path generalizing j with
  | nil => cases h
  | cons name rest ih =>
    cases j with
    | object fields =>
      rw [leaf?_cons, field?]
      rw [decides] at h
      cases hv : KeyMap.findEntry name fields with
      | none => rfl
      | some v =>
        rw [hv] at h
        exact ih h
    | _ => cases h

theorem leaf?_eq_some_iff {path : List String} {j v : Json} :
    leaf? path j = some v ↔ at? path j = some v ∧ v.isTable = false := by
  simp [leaf?, Option.filter_eq_some_iff]

/-- A tree of objects in which no name repeats, with the allowed values at its ends. -/
inductive Tree (Allowed : Json → Prop) : Json → Prop
  | leaf {j : Json} (allowed : Allowed j) (h : j.isTable = false) : Tree Allowed j
  | node (m : KeyMap Json) (h : ∀ f ∈ m.entries, Tree Allowed f.2) : Tree Allowed (object m.entries)

namespace Tree

variable {Allowed : Json → Prop}

theorem mono {Allowed' : Json → Prop} (hsub : ∀ v, Allowed v → Allowed' v) {j : Json}
    (h : Tree Allowed j) : Tree Allowed' j := by
  induction h with
  | leaf allowed h => exact .leaf (hsub _ allowed) h
  | node m _ ih => exact .node m ih

theorem ofFields {fields : List (String × Json)} (h : ∀ f ∈ fields, Tree Allowed f.2) :
    Tree Allowed (Json.ofFields fields) :=
  .node _ fun f hf => h f (KeyMap.mem_of_mem_ofList hf)

theorem nested (path : List String) {v : Json} (h : Tree Allowed v) :
    Tree Allowed (Json.nested path v) := by
  induction path with
  | nil => exact h
  | cons name rest ih =>
    refine .node ⟨[(name, Json.nested rest v)], by simp⟩ fun f hf => ?_
    rw [List.mem_singleton] at hf
    rw [hf]
    exact ih

theorem allowed_of_leaf? {j : Json} (h : Tree Allowed j) {path : List String} {v : Json}
    (hv : leaf? path j = some v) : Allowed v := by
  induction path generalizing j with
  | nil =>
    obtain ⟨hj, htable⟩ := leaf?_eq_some_iff.1 hv
    cases hj
    cases h with
    | leaf allowed => exact allowed
    | node => cases htable
  | cons name rest ih =>
    rw [leaf?_cons, Option.bind_eq_some_iff] at hv
    obtain ⟨w, hw, hv⟩ := hv
    cases h with
    | leaf allowed htable => cases j <;> simp_all [field?, isTable]
    | node m h => exact ih (h (name, w) (KeyMap.get?_eq_some_iff.1 hw)) hv

end Tree

theorem findEntry_overlayFields {upper : List (String × Json)}
    (hdistinct : upper.Pairwise fun f g => f.1 < g.1) (lower : List (String × Json))
    (name : String) :
    KeyMap.findEntry name (overlayFields lower upper) =
      match KeyMap.findEntry name upper with
      | some v => some (match KeyMap.findEntry name lower with
        | some below => overlay below v
        | none => v)
      | none => KeyMap.findEntry name lower := by
  induction upper generalizing lower with
  | nil => rfl
  | cons f rest ih =>
    obtain ⟨head, value⟩ := f
    rw [overlayFields, ih hdistinct.of_cons, KeyMap.findEntry_insertEntry, KeyMap.findEntry]
    by_cases hname : head = name
    · subst hname
      have hrest : KeyMap.findEntry head rest = none := by
        rw [KeyMap.findEntry_eq_none_iff]
        intro g hg hname
        have hlt : head < g.1 := List.rel_of_pairwise_cons hdistinct hg
        exact String.lt_irrefl head (by rwa [hname] at hlt)
      cases KeyMap.findEntry head lower <;> simp [hrest]
    · simp [hname]

theorem overlay_of_not_isTable (lower : Json) {upper : Json} (h : upper.isTable = false) :
    overlay lower upper = upper := by
  cases upper with
  | object fields => cases h
  | _ => simp [overlay]

theorem overlay_object_object (lower upper : List (String × Json)) :
    overlay (object lower) (object upper) = object (overlayFields lower upper) := by
  simp [overlay]

theorem overlay_object_of_not_isTable {lower : Json} (upper : List (String × Json))
    (h : lower.isTable = false) : overlay lower (object upper) = object upper := by
  cases lower with
  | object fields => cases h
  | _ => simp [overlay]

theorem isTable_overlay_object (lower : Json) (upper : List (String × Json)) :
    (overlay lower (object upper)).isTable = true := by
  cases hl : lower.isTable with
  | false => rw [overlay_object_of_not_isTable upper hl]; rfl
  | true =>
    cases lower with
    | object fields => rw [overlay_object_object]; rfl
    | _ => cases hl

section Layers

variable {Allowed : Json → Prop}

/-- Where the upper value decides about a path, it alone counts, and elsewhere the lower one. -/
theorem leaf?_overlay {upper : Json} (h : Tree Allowed upper) (path : List String) (lower : Json) :
    leaf? path (overlay lower upper) =
      if decides path upper then leaf? path upper else leaf? path lower := by
  induction path generalizing lower upper with
  | nil =>
    cases h with
    | leaf _ htable => rw [overlay_of_not_isTable lower htable]; rfl
    | node m h =>
      rw [leaf?_nil, leaf?_nil, if_pos (isTable_overlay_object lower m.entries)]
      rfl
  | cons name rest ih =>
    cases h with
    | leaf _ htable =>
      rw [overlay_of_not_isTable lower htable, if_pos (decides_of_not_isTable _ htable)]
    | node m h =>
      rw [decides]
      cases hl : lower.isTable with
      | false =>
        -- below stands no object, so nothing is found there
        have hnone : leaf? (name :: rest) lower = none := by
          rw [leaf?_cons]
          cases lower <;> simp_all [field?, isTable]
        rw [overlay_object_of_not_isTable m.entries hl, leaf?_cons, field?, hnone]
        cases hv : KeyMap.findEntry name m.entries with
        | none => rfl
        | some v =>
          dsimp only
          split
          · rfl
          · rename_i hnot
            exact leaf?_of_not_decides (by simpa using hnot)
      | true =>
        cases lower with
        | object fields =>
          rw [overlay_object_object, leaf?_cons, leaf?_cons, leaf?_cons, field?, field?, field?,
            findEntry_overlayFields m.sorted]
          cases hv : KeyMap.findEntry name m.entries with
          | none => rfl
          | some v =>
            have hvalue : Tree Allowed v := h (name, v) (KeyMap.get?_eq_some_iff.1 hv)
            cases hb : KeyMap.findEntry name fields with
            | none =>
              dsimp only [Option.bind_some, Option.bind_none]
              split
              · rfl
              · rename_i hnot
                exact leaf?_of_not_decides (by simpa using hnot)
            | some below => exact ih hvalue below
        | _ => cases hl

def lastDeciding (path : List String) (layers : List Json) : Option Json :=
  (layers.filter (decides path)).getLast?

theorem mem_of_lastDeciding {path : List String} {layers : List Json} {j : Json}
    (h : lastDeciding path layers = some j) : j ∈ layers :=
  List.mem_of_mem_filter (List.mem_of_getLast? h)

/-- What stands at the end of a path is what the last layer that decides about it has there. -/
theorem leaf?_overlayAll (path : List String) (base : Json) {layers : List Json}
    (h : ∀ j ∈ layers, Tree Allowed j) :
    leaf? path (overlayAll base layers) =
      (lastDeciding path (base :: layers)).bind (leaf? path) := by
  induction layers using List.reverseRecOn with
  | nil =>
    unfold lastDeciding
    cases hd : decides path base with
    | false => simp [hd, leaf?_of_not_decides hd]
    | true => simp [hd]
  | append_singleton layers upper ih =>
    have hlower := ih fun j hj => h j (List.mem_append_left _ hj)
    have hover : overlayAll base (layers ++ [upper]) = overlay (overlayAll base layers) upper := by
      simp [overlayAll]
    unfold lastDeciding at hlower ⊢
    rw [hover, leaf?_overlay (h upper (by simp)), ← List.cons_append, List.filter_append,
      List.getLast?_append, hlower]
    cases hd : decides path upper <;> simp [hd]

theorem Tree.overlay {lower upper : Json} (hl : Tree Allowed lower) (hu : Tree Allowed upper) :
    Tree Allowed (overlay lower upper) := by
  induction hu generalizing lower with
  | leaf allowed htable =>
    rw [overlay_of_not_isTable lower htable]
    exact .leaf allowed htable
  | node m h ih =>
    cases hl with
    | leaf _ htable =>
      rw [overlay_object_of_not_isTable m.entries htable]
      exact .node m h
    | node l hl =>
      rw [overlay_object_object]
      -- the fields are laid over one after the other, each giving a map again
      have hfields (fields : List (String × Json)) (hmem : ∀ f ∈ fields, f ∈ m.entries)
          (l : KeyMap Json) (hl : ∀ f ∈ l.entries, Tree Allowed f.2) :
          Tree Allowed (object (overlayFields l.entries fields)) := by
        induction fields generalizing l with
        | nil => exact .node l hl
        | cons f rest ihrest =>
          obtain ⟨name, value⟩ := f
          have hvalue := hmem (name, value) List.mem_cons_self
          rw [overlayFields]
          refine ihrest (fun g hg => hmem g (List.mem_cons_of_mem _ hg)) (l.insert name _)
            fun g hg => ?_
          rcases KeyMap.mem_insertEntry hg with rfl | hg
          · cases hb : KeyMap.findEntry name l.entries with
            | none => exact h (name, value) hvalue
            | some below =>
              exact ih (name, value) hvalue (hl (name, below) (KeyMap.get?_eq_some_iff.1 hb))
          · exact hl g hg
      exact hfields m.entries (fun f hf => hf) l hl

theorem Tree.overlayAll {base : Json} {layers : List Json} (hbase : Tree Allowed base)
    (h : ∀ j ∈ layers, Tree Allowed j) : Tree Allowed (overlayAll base layers) := by
  induction layers generalizing base with
  | nil => exact hbase
  | cons upper rest ih =>
    exact ih (hbase.overlay (h upper List.mem_cons_self)) fun j hj =>
      h j (List.mem_cons_of_mem _ hj)

end Layers

end Json
end SynonymLookup
