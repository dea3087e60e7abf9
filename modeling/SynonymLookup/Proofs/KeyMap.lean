import Mathlib.Data.List.Basic
import Mathlib.Data.List.Induction
import Mathlib.Data.List.Sort
import SynonymLookup.KeyMap

/-! Maps through their entries: look-ups, which tell a map, and what is made of all entries when
one is put in or taken out. -/

namespace SynonymLookup

/-- A list in the order of its keys is told by its elements. -/
theorem eq_of_pairwise_lt {α : Type} {key : α → String} {l l' : List α}
    (h : l.Pairwise fun a b => key a < key b) (h' : l'.Pairwise fun a b => key a < key b)
    (hmem : ∀ a, a ∈ l ↔ a ∈ l') : l = l' := by
  have irrefl : Std.Irrefl fun a b : α => key a < key b := ⟨fun a => String.lt_irrefl (key a)⟩
  have antisymm : Std.Antisymm fun a b : α => key a < key b :=
    ⟨fun a b hab hba => absurd hba (String.lt_asymm hab)⟩
  exact h.eq_of_mem_iff h' hmem

namespace KeyMap

variable {α β γ : Type}

theorem findEntry_eq_some_iff {key : String} {value : α} {l : List (String × α)}
    (h : l.Pairwise (fun a b => a.1 < b.1)) :
    findEntry key l = some value ↔ (key, value) ∈ l := by
  induction l with
  | nil => simp [findEntry]
  | cons hd tl ih =>
    obtain ⟨k, v⟩ := hd
    have later : ∀ w, (k, w) ∉ tl := fun w hw =>
      String.lt_irrefl k (List.rel_of_pairwise_cons h hw)
    by_cases hk : k = key
    · subst hk
      simp [findEntry, later, eq_comm]
    · simp [findEntry, hk, ih h.of_cons, Ne.symm hk]

theorem get?_eq_some_iff {m : KeyMap α} {key : String} {value : α} :
    m.get? key = some value ↔ (key, value) ∈ m.entries := findEntry_eq_some_iff m.sorted

theorem get?_filter (m : KeyMap α) (p : String → α → Bool) (key : String) :
    (m.filter p).get? key = (m.get? key).filter (p key) := by
  ext value
  simp [Option.filter_eq_some_iff, get?_eq_some_iff, filter]

theorem get?_map (m : KeyMap α) (f : α → β) (key : String) :
    (m.map f).get? key = (m.get? key).map f := by
  ext value
  simp [get?_eq_some_iff, map]

theorem values_map (m : KeyMap α) (f : α → β) : (m.map f).values = m.values.map f := by
  simp [values, map]

theorem map_map (m : KeyMap α) (f : α → β) (g : β → γ) :
    (m.map f).map g = m.map fun a => g (f a) := by
  ext1
  simp [map]

theorem map_congr {m : KeyMap α} {f g : α → β} (h : ∀ a ∈ m.values, f a = g a) :
    m.map f = m.map g := by
  ext1
  refine List.map_congr_left fun e he => ?_
  rw [h e.2 (List.mem_map_of_mem he)]

theorem mem_values_iff {m : KeyMap α} {value : α} :
    value ∈ m.values ↔ ∃ key, m.get? key = some value := by
  simp [values, get?_eq_some_iff]

theorem nodup_keys (m : KeyMap α) : m.keys.Nodup :=
  List.pairwise_map.2 (m.sorted.imp String.ne_of_lt)

theorem filterMap_get?_keys (m : KeyMap α) (f : String → α → Option β) :
    (m.keys.filterMap fun key => (m.get? key).bind (f key)) =
      m.entries.filterMap fun e => f e.1 e.2 := by
  rw [keys, List.filterMap_map]
  apply List.filterMap_congr
  intro e he
  simp [get?_eq_some_iff.2 he]

/-- What is made of the other entries stays when an entry that gives nothing is put in. -/
theorem filterMap_insertEntry {f : String × α → Option β} {key : String} {value : α}
    {l : List (String × α)} (hnew : f (key, value) = none)
    (hold : ∀ v, (key, v) ∈ l → f (key, v) = none) :
    (insertEntry key value l).filterMap f = l.filterMap f := by
  induction l with
  | nil => simp [insertEntry, hnew]
  | cons hd tl ih =>
    obtain ⟨k, v⟩ := hd
    have ih := ih fun w hw => hold w (List.mem_cons_of_mem _ hw)
    simp only [insertEntry]
    split
    · simp [hnew]
    · split
      · rename_i _ hk
        subst hk
        simp [hnew, hold v (List.mem_cons_self ..)]
      · simp [List.filterMap_cons, ih]

theorem filterMap_erase {f : String × α → Option β} {key : String} {l : List (String × α)}
    (hold : ∀ v, (key, v) ∈ l → f (key, v) = none) :
    (l.filter (·.1 != key)).filterMap f = l.filterMap f := by
  rw [List.filterMap_filter]
  apply List.filterMap_congr
  rintro ⟨k, v⟩ he
  by_cases hk : k = key
  · subst hk
    simp [hold v he]
  · simp [hk]

theorem findEntry_eq_none_iff {key : String} {l : List (String × α)} :
    findEntry key l = none ↔ ∀ e ∈ l, e.1 ≠ key := by
  induction l with
  | nil => simp [findEntry]
  | cons hd tl ih => by_cases hk : hd.1 = key <;> simp [findEntry, hk, ih]

theorem findEntry_append (key : String) (l r : List (String × α)) :
    findEntry key (l ++ r) = (findEntry key l).or (findEntry key r) := by
  induction l with
  | nil => simp [findEntry]
  | cons hd tl ih => by_cases hk : hd.1 = key <;> simp [findEntry, hk, ih]

theorem get?_ofList (key : String) (l : List (String × α)) :
    (ofList l).get? key = findEntry key l.reverse := by
  induction l using List.reverseRecOn with
  | nil => rfl
  | append_singleton l e ih =>
    have h : ofList (l ++ [e]) = (ofList l).insert e.1 e.2 := by simp [ofList]
    rw [h, get?_insert, ih]
    simp [findEntry]

theorem mem_of_findEntry {key : String} {value : α} {l : List (String × α)}
    (h : findEntry key l = some value) : (key, value) ∈ l := by
  induction l with
  | nil => cases h
  | cons hd tl ih =>
    obtain ⟨k, v⟩ := hd
    by_cases hk : k = key
    · subst hk
      rw [findEntry, if_pos rfl, Option.some.injEq] at h
      subst h
      exact List.mem_cons_self
    · rw [findEntry, if_neg hk] at h
      exact List.mem_cons_of_mem _ (ih h)

theorem get?_ofList_of_unique {key : String} {value : α} {l : List (String × α)}
    (hmem : (key, value) ∈ l) (hunique : ∀ w, (key, w) ∈ l → w = value) :
    (ofList l).get? key = some value := by
  rw [get?_ofList]
  cases h : findEntry key l.reverse with
  | none => exact absurd rfl (findEntry_eq_none_iff.1 h _ (List.mem_reverse.2 hmem))
  | some w => rw [hunique w (List.mem_reverse.1 (mem_of_findEntry h))]

theorem ext_get? {m n : KeyMap α} (h : ∀ key, m.get? key = n.get? key) : m = n := by
  refine KeyMap.ext (eq_of_pairwise_lt m.sorted n.sorted fun e => ?_)
  rw [← get?_eq_some_iff, ← get?_eq_some_iff, h]

theorem mem_of_mem_ofList {e : String × α} {l : List (String × α)} (h : e ∈ (ofList l).entries) :
    e ∈ l := by
  have hget : (ofList l).get? e.1 = some e.2 := get?_eq_some_iff.2 h
  rw [get?_ofList] at hget
  exact List.mem_reverse.1 (mem_of_findEntry hget)

theorem ofList_entries (m : KeyMap α) : ofList m.entries = m := by
  refine ext_get? fun key => ?_
  cases h : m.get? key with
  | none =>
    rw [get?_ofList, findEntry_eq_none_iff]
    exact fun e he => findEntry_eq_none_iff.1 h e (List.mem_reverse.1 he)
  | some value =>
    have hmem := get?_eq_some_iff.1 h
    refine get?_ofList_of_unique hmem fun w hw => ?_
    rw [get?_eq_some_iff.2 hw] at h
    exact Option.some.inj h

theorem mem_keys_iff {m : KeyMap α} {key : String} : key ∈ m.keys ↔ (m.get? key).isSome := by
  simp [keys, Option.isSome_iff_exists, get?_eq_some_iff]

theorem mem_keys_insert_iff {m : KeyMap α} {key key' : String} {value : α} :
    key' ∈ (m.insert key value).keys ↔ key' = key ∨ key' ∈ m.keys := by
  rw [mem_keys_iff, mem_keys_iff, get?_insert]
  by_cases hkey : key = key'
  · simp [hkey]
  · simp [hkey, Ne.symm hkey]

theorem mem_keys_ofList_iff {l : List (String × α)} {key : String} :
    key ∈ (ofList l).keys ↔ ∃ e ∈ l, e.1 = key := by
  rw [mem_keys_iff, get?_ofList, Option.isSome_iff_ne_none, ne_eq, findEntry_eq_none_iff]
  simp

theorem countP_key_le_one (m : KeyMap α) (key : String) :
    m.entries.countP (·.1 == key) ≤ 1 := by
  obtain ⟨l, h⟩ := m
  show l.countP (·.1 == key) ≤ 1
  induction l with
  | nil => simp
  | cons hd tl ih =>
    by_cases hk : hd.1 = key
    · have none_left : tl.countP (·.1 == key) = 0 := by
        rw [List.countP_eq_zero]
        intro e he
        have := List.rel_of_pairwise_cons h he
        rw [hk] at this
        simpa using (String.ne_of_lt this).symm
      simp [hk, none_left]
    · simpa [List.countP_cons, hk] using ih h.of_cons

end KeyMap
end SynonymLookup
