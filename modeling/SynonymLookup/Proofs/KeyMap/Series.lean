import SynonymLookup.Proofs.KeyMap
import SynonymLookup.Proofs.Lasts

/-! Maps after a series of insertions or changes. Under a key only those of the series count that
have the key: of insertions the last one, of changes all of them in order. -/

namespace SynonymLookup
namespace KeyMap

variable {α γ : Type}

section Insertions

def insertAll (m : KeyMap α) (entries : List (String × α)) : KeyMap α :=
  entries.foldl (fun m e => m.insert e.1 e.2) m

theorem get?_insertAll (m : KeyMap α) (entries : List (String × α)) (key : String) :
    (m.insertAll entries).get? key = (findEntry key entries.reverse).or (m.get? key) := by
  induction entries generalizing m with
  | nil => rfl
  | cons e rest ih =>
    obtain ⟨k, value⟩ := e
    rw [insertAll, List.foldl_cons, ← insertAll, ih, get?_insert, List.reverse_cons,
      findEntry_append, Option.or_assoc]
    by_cases hk : k = key <;> simp [findEntry, hk]

theorem get?_insertAll_entries (m n : KeyMap α) (key : String) :
    (m.insertAll n.entries).get? key = (n.get? key).or (m.get? key) := by
  rw [get?_insertAll, ← get?_ofList, ofList_entries]

theorem insertAll_again (m : KeyMap α) (entries : List (String × α)) :
    (m.insertAll entries).insertAll entries = m.insertAll entries := by
  refine ext_get? fun key => ?_
  rw [get?_insertAll, get?_insertAll, ← Option.or_assoc, Option.or_self]

theorem findEntry_map (f : γ → α) (key : String) (l : List (String × γ)) :
    findEntry key (l.map fun e => (e.1, f e.2)) = (findEntry key l).map f := by
  induction l with
  | nil => rfl
  | cons e rest ih => by_cases hk : e.1 = key <;> simp [findEntry, hk, ih]

theorem findEntry_map_key (key : γ → String) (l : List γ) (k : String) :
    findEntry k (l.map fun a => (key a, a)) = l.find? fun a => key a == k := by
  induction l with
  | nil => rfl
  | cons a rest ih => by_cases hk : key a = k <;> simp [findEntry, hk, ih]

theorem flatMap_entries (m : KeyMap α) (f : α → List γ) (key : String) :
    (m.entries.flatMap fun e => if e.1 = key then f e.2 else []) =
      ((m.get? key).map f).getD [] := by
  obtain ⟨l, sorted⟩ := m
  show (l.flatMap fun e => if e.1 = key then f e.2 else []) = ((findEntry key l).map f).getD []
  induction l with
  | nil => rfl
  | cons e rest ih =>
    obtain ⟨k, value⟩ := e
    by_cases hk : k = key
    · subst hk
      have hlater : ∀ e ∈ rest, (if e.1 = k then f e.2 else []) = [] := fun e he =>
        if_neg (String.ne_of_lt (List.rel_of_pairwise_cons sorted he)).symm
      simp [findEntry, List.flatMap_eq_nil_iff.2 hlater]
    · simp [findEntry, hk, ih sorted.of_cons]

end Insertions

section Changes

variable (key : γ → String) (initial : α) (change : α → γ → α)

/-- Values changed one after the other, each under its key and from `initial` where
there is none yet. -/
def changeAll (m : KeyMap α) (l : List γ) : KeyMap α :=
  l.foldl (fun m a => m.update (key a) fun value => change (value.getD initial) a) m

theorem get?_changeAll (m : KeyMap α) (l : List γ) (k : String) :
    (changeAll key initial change m l).get? k =
      if hasKey key l k then
        some ((l.filter fun a => key a == k).foldl change ((m.get? k).getD initial))
      else m.get? k := by
  induction l generalizing m with
  | nil => rfl
  | cons a rest ih =>
    rw [changeAll, List.foldl_cons, ← changeAll, ih, update, get?_insert]
    by_cases hk : key a = k
    · subst hk
      cases hlater : hasKey key rest (key a) with
      | true => simp
      | false => simp [filter_eq_nil_of_hasKey hlater]
    · simp [hk]

theorem getD_changeAll (m : KeyMap α) (l : List γ) (k : String) :
    ((changeAll key initial change m l).get? k).getD initial =
      (l.filter fun a => key a == k).foldl change ((m.get? k).getD initial) := by
  rw [get?_changeAll]
  cases hk : hasKey key l k with
  | true => rfl
  | false =>
    rw [filter_eq_nil_of_hasKey hk]
    rfl

/-- Where a series of changes to one value is settled after the first time, so is one to the map. -/
theorem changeAll_again
    (h : ∀ value l, (l : List γ).foldl change (l.foldl change value) = l.foldl change value)
    (m : KeyMap α) (l : List γ) :
    changeAll key initial change (changeAll key initial change m l) l =
      changeAll key initial change m l := by
  refine ext_get? fun k => ?_
  rw [get?_changeAll, get?_changeAll]
  split
  · rw [Option.getD_some, h]
  · rfl

end Changes

end KeyMap
end SynonymLookup
