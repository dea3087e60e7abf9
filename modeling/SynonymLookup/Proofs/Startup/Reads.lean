import SynonymLookup.Proofs.Configuration.Reading
import SynonymLookup.Proofs.Json.Overlay

/-! Readers of written records, taken apart: where each thing that a reader gives stands, how it is
read there, and what holds where nothing stands. A record may also be written as a list, so a place
in it is found by name or by position. -/

namespace SynonymLookup

namespace Record

theorem optional_eq {α : Type} (r : Record) (name : String) (read : Json → Option α) :
    r.optional name read =
      r.withDefault name (fun j => if j.isNull then some none else (read j).map some) none := by
  unfold optional withDefault
  split
  · rename_i h
    rw [h]
  · rename_i h
    rw [h]
    rfl
  · rename_i j hnull h
    rw [h]
    cases j <;> simp_all [Json.isNull]

end Record

namespace Json

def ReadOf {α : Type} (reader : Json → Option α) (f : String × Json) (e : String × α) : Prop :=
  e.1 = f.1 ∧ reader f.2 = some e.2

theorem forall₂_of_mapM {α : Type} {reader : Json → Option α} {fields : List (String × Json)}
    {l : List (String × α)}
    (h : (fields.mapM fun f => (reader f.2).map fun v => (f.1, v)) = some l) :
    List.Forall₂ (ReadOf reader) fields l := by
  induction fields generalizing l with
  | nil =>
    cases h
    exact .nil
  | cons f rest ih =>
    rw [List.mapM_cons] at h
    obtain ⟨e, he, h⟩ := Option.bind_eq_some_iff.1 h
    obtain ⟨more, hmore, h⟩ := Option.bind_eq_some_iff.1 h
    obtain ⟨a, ha, rfl⟩ := Option.map_eq_some_iff.1 he
    cases h
    exact .cons ⟨rfl, ha⟩ (ih hmore)

theorem findEntry_of_forall₂ {α : Type} {reader : Json → Option α} {fields : List (String × Json)}
    {l : List (String × α)} (h : List.Forall₂ (ReadOf reader) fields l) (name : String) :
    (KeyMap.findEntry name fields = none ∧ KeyMap.findEntry name l = none) ∨
      ∃ w a, KeyMap.findEntry name fields = some w ∧ reader w = some a ∧
        KeyMap.findEntry name l = some a := by
  induction h with
  | nil => exact .inl ⟨rfl, rfl⟩
  | @cons f e _ _ hread _ ih =>
    obtain ⟨hname, hread⟩ := hread
    unfold KeyMap.findEntry
    rw [hname]
    by_cases hf : f.1 = name
    · exact .inr ⟨f.2, e.2, if_pos hf, hread, if_pos hf⟩
    · simp only [if_neg hf]
      exact ih

theorem get?_of_map? {α : Type} {reader : Json → Option α} {fields : List (String × Json)}
    {m : KeyMap α} (h : map? reader (object fields) = some m) (name : String) :
    ((KeyMap.ofList fields).get? name = none ∧ m.get? name = none) ∨
      ∃ w a, (KeyMap.ofList fields).get? name = some w ∧ reader w = some a ∧
        m.get? name = some a := by
  obtain ⟨l, hl, rfl⟩ := Option.map_eq_some_iff.1 h
  rw [KeyMap.get?_ofList, KeyMap.get?_ofList]
  exact findEntry_of_forall₂ (List.rel_reverse (forall₂_of_mapM hl)) name

end Json

namespace Startup

/-- One step into a written value. -/
inductive Part where
  /-- To a field of a record with fields of the given names. -/
  | field (names : List String) (name : String)
  /-- To an entry of a map. -/
  | entry (name : String)

namespace Part

def name : Part → String
  | field _ name => name
  | entry name => name

def of? : Part → Json → Option Json
  | field names name, j => (j.record? names).bind fun r => r.get? name
  | entry name, .object fields => (KeyMap.ofList fields).get? name
  | entry _, _ => none

end Part

def place? : List Part → Json → Option Json
  | [], j => some j
  | p :: rest, j => (p.of? j).bind (place? rest)

section Place

variable {Allowed : Json → Prop}

theorem Part.of?_object (p : Part) (m : KeyMap Json) :
    p.of? (.object m.entries) = m.get? p.name := by
  cases p with
  | field names name =>
    have hrecord : (Json.object m.entries).record? names = some ⟨m.entries⟩ := by
      show Json.openRecord? names (.object m.entries) = _
      rw [Json.openRecord?, if_pos]
      exact List.all_eq_true.2 fun n _ => by simpa using m.countP_key_le_one n
    rw [of?, hrecord]
    rfl
  | entry name => rw [of?, KeyMap.ofList_entries]; rfl

theorem place?_of_at? {j : Json} (h : Json.Tree Allowed j) {parts : List Part} {v : Json}
    (hv : Json.at? (parts.map Part.name) j = some v) : place? parts j = some v := by
  induction parts generalizing j with
  | nil => exact hv
  | cons p rest ih =>
    rw [List.map_cons, Json.at?_cons, Option.bind_eq_some_iff] at hv
    obtain ⟨w, hw, hv⟩ := hv
    cases h with
    | leaf _ htable => cases j <;> simp_all [Json.field?, Json.isTable]
    | node m h =>
      have hget : m.get? p.name = some w := hw
      rw [place?, p.of?_object, hget]
      exact ih (h (p.name, w) (KeyMap.get?_eq_some_iff.1 hget)) hv

/-- What is reached by other ways than names is reached through a list. -/
theorem exists_list_of_place? {j : Json} (h : Json.Tree Allowed j) {parts : List Part} {v : Json}
    (hv : place? parts j = some v) (hnone : Json.at? (parts.map Part.name) j = none) :
    ∃ before rest items, parts = before ++ rest ∧
      Json.leaf? (before.map Part.name) j = some (.array items) ∧
      place? rest (.array items) = some v := by
  induction parts generalizing j with
  | nil => cases hnone
  | cons p rest ih =>
    have hplace := hv
    rw [place?, Option.bind_eq_some_iff] at hv
    obtain ⟨w, hw, hv⟩ := hv
    cases h with
    | leaf _ htable =>
      cases j with
      | object fields => cases htable
      | array items => exact ⟨[], p :: rest, items, rfl, rfl, hplace⟩
      | _ => cases p <;> simp [Part.of?, Json.record?, Json.openRecord?] at hw
    | node m h =>
      rw [p.of?_object] at hw
      have hfield : (Json.object m.entries).field? p.name = some w := hw
      rw [List.map_cons, Json.at?_cons, hfield] at hnone
      obtain ⟨before, after, items, rfl, hleaf, hrest⟩ :=
        ih (h (p.name, w) (KeyMap.get?_eq_some_iff.1 hw)) hv hnone
      refine ⟨p :: before, after, items, rfl, ?_, hrest⟩
      rw [List.map_cons, Json.leaf?_cons, hfield]
      exact hleaf

end Place

/-- How a reader treats one of the things it reads: where it stands, how it is read there, where it
is kept afterwards, and which default holds if nothing stands there. -/
structure Reads {α β : Type} (reader : Json → Option α) (parts : List Part) (read : Json → Option β)
    (get : α → Option β) (default : Option β) : Prop where
  placed : ∀ {j a v}, reader j = some a → place? parts j = some v →
    ∃ b, read v = some b ∧ get a = some b
  missing : ∀ {j a b}, reader j = some a → place? parts j = none → get a = some b → default = some b

namespace Reads

variable {α β γ : Type} {reader : Json → Option α} {parts : List Part} {read : Json → Option β}
  {get : α → Option β} {default : Option β}

theorem self (read : Json → Option β) (default : Option β) : Reads read [] read some default where
  placed h hv := ⟨_, by cases hv; exact h, rfl⟩
  missing _ hnone := nomatch hnone

theorem field {outer : Json → Option γ} {names : List String} {name : String} {without : α}
    {p : γ → α}
    (hfield : ∀ {j c}, outer j = some c → ∃ r, j.record? names = some r ∧
      r.withDefault name reader without = some (p c))
    (hwithout : ∀ b, get without = some b → default = some b)
    (h : Reads reader parts read get default) :
    Reads outer (.field names name :: parts) read (fun c => get (p c)) default where
  placed {j c v} hc hv := by
    obtain ⟨r, hr, hread⟩ := hfield hc
    rw [place?, Part.of?, hr, Option.bind_some, Option.bind_eq_some_iff] at hv
    obtain ⟨w, hw, hv⟩ := hv
    rw [Record.withDefault, hw] at hread
    exact h.placed hread hv
  missing {j c b} hc hnone hb := by
    obtain ⟨r, hr, hread⟩ := hfield hc
    rw [place?, Part.of?, hr, Option.bind_some] at hnone
    cases hw : r.get? name with
    | none =>
      rw [Record.withDefault, hw] at hread
      rw [← Option.some.inj hread] at hb
      exact hwithout b hb
    | some w =>
      rw [Record.withDefault, hw] at hread
      rw [hw] at hnone
      exact h.missing hread hnone hb

/-- An entry of a map, none where the map has none. -/
theorem entry (name : String) (h : Reads reader parts read get default) :
    Reads (Json.map? reader) (.entry name :: parts) read
      (fun m => (m.get? name).bind get) default := by
  constructor
  · intro j m v hm hv
    rw [place?, Option.bind_eq_some_iff] at hv
    obtain ⟨w, hw, hv⟩ := hv
    cases j with
    | object fields =>
      rcases Json.get?_of_map? hm name with ⟨hnone, -⟩ | ⟨w', a, hw', ha, hget⟩
      · cases hw.symm.trans hnone
      · cases hw.symm.trans hw'
        rw [hget]
        exact h.placed ha hv
    | _ => cases hm
  · intro j m b hm hnone hb
    cases j with
    | object fields =>
      rcases Json.get?_of_map? hm name with ⟨-, hget⟩ | ⟨w, a, hw, ha, hget⟩
      · rw [hget] at hb
        cases hb
      · rw [place?, show (Part.entry name).of? (.object fields) = some w from hw] at hnone
        rw [hget] at hb
        exact h.missing ha hnone hb
    | _ => cases hm

end Reads

end Startup
end SynonymLookup
