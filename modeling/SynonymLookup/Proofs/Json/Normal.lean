import SynonymLookup.Json.Basic
import SynonymLookup.Proofs.KeyMap

/-! Normal values: what normalizing makes, and what it leaves as it is. -/

namespace SynonymLookup
namespace Json

/-- In a normal value every object lists its fields in key order, without repetition. -/
def IsNormal (j : Json) : Prop := j.normalize = j

theorem normalizeItems_eq_map (items : List Json) : normalizeItems items = items.map normalize := by
  induction items with
  | nil => rfl
  | cons item rest ih => simp [normalizeItems, ih]

theorem normalizeFields_eq_map (fields : List (String × Json)) :
    normalizeFields fields = fields.map fun f => (f.1, f.2.normalize) := by
  induction fields with
  | nil => rfl
  | cons f rest ih => simp [normalizeFields, ih]

theorem isNormal_array {items : List Json} (h : ∀ j ∈ items, j.IsNormal) :
    (array items).IsNormal := by
  have hsame : items.map normalize = items := (List.map_congr_left h).trans (List.map_id' items)
  simp [IsNormal, normalize, normalizeItems_eq_map, hsame]

theorem isNormal_object {m : KeyMap Json} (h : ∀ f ∈ m.entries, f.2.IsNormal) :
    (object m.entries).IsNormal := by
  have hsame : (m.entries.map fun f => (f.1, f.2.normalize)) = m.entries :=
    (List.map_congr_left fun f hf => by rw [h f hf]).trans (List.map_id' m.entries)
  simp [IsNormal, normalize, ofFields, normalizeFields_eq_map, hsame, KeyMap.ofList_entries]

mutual

theorem isNormal_normalize : ∀ j : Json, j.normalize.IsNormal
  | null => rfl
  | bool _ => rfl
  | number _ => rfl
  | string _ => rfl
  | array items => isNormal_array (isNormal_of_mem_items items)
  | object fields =>
    isNormal_object fun f hf => isNormal_of_mem_fields fields f (KeyMap.mem_of_mem_ofList hf)

theorem isNormal_of_mem_items : ∀ items : List Json, ∀ j ∈ normalizeItems items, j.IsNormal
  | [], _, h => nomatch h
  | item :: rest, j, h => (List.mem_cons.1 h).elim (fun e => e ▸ isNormal_normalize item)
      (isNormal_of_mem_items rest j)

theorem isNormal_of_mem_fields :
    ∀ fields : List (String × Json), ∀ f ∈ normalizeFields fields, f.2.IsNormal
  | [], _, h => nomatch h
  | (_, value) :: rest, f, h => (List.mem_cons.1 h).elim (fun e => e ▸ isNormal_normalize value)
      (isNormal_of_mem_fields rest f)

end

theorem IsNormal.of_mem_fields? {j : Json} (h : j.IsNormal) {f : String × Json}
    (hf : f ∈ j.fields?.getD []) : f.2.IsNormal := by
  cases j with
  | object fields =>
    have hfields : (KeyMap.ofList (normalizeFields fields)).entries = fields := by
      simpa [IsNormal, normalize, ofFields] using h
    rw [fields?, Option.getD_some, ← hfields] at hf
    exact isNormal_of_mem_fields fields f (KeyMap.mem_of_mem_ofList hf)
  | _ => cases hf

end Json
end SynonymLookup
