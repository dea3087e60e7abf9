import Mathlib.Algebra.Order.BigOperators.Group.List
import Mathlib.Algebra.Order.Ring.Nat
import SynonymLookup.Settings.CacheTags

/-! When a cache entry is stale. Its checksum counts each invalidation of each of its tags, so it
grows with every one of them and with no other. As long as these are fewer than 2 ^ 64, no counter
of these tags and no part of their sum needs more than 64 bits. -/

namespace SynonymLookup
namespace CacheTags

/-- How often tags are told of, each counted as often as it is watched. -/
def hits (told watch : List String) : Nat := (watch.map fun tag => told.count tag).sum

theorem hits_pos_iff {told watch : List String} : 0 < hits told watch ↔
    ∃ tag ∈ told, tag ∈ watch := by
  rw [hits, List.sum_pos_iff_exists_pos_nat]
  simp only [List.mem_map, exists_exists_and_eq_and, List.count_pos_iff]
  exact ⟨fun ⟨tag, hwatch, htold⟩ => ⟨tag, htold, hwatch⟩, fun ⟨tag, htold, hwatch⟩ =>
    ⟨tag, hwatch, htold⟩⟩

theorem hits_append (told later watch : List String) :
    hits (told ++ later) watch = hits told watch + hits later watch := by
  simp only [hits, List.count_append, List.sum_map_add]

theorem hits_mono {told told' watch watch' : List String} (htold : told.Sublist told')
    (hwatch : watch.Sublist watch') : hits told watch ≤ hits told' watch' := by
  calc hits told watch ≤ hits told' watch := List.sum_le_sum fun tag _ => htold.count_le tag
    _ ≤ hits told' watch' := (hwatch.map _).sum_le_sum fun _ _ => Nat.zero_le _

theorem checksum_eq_sum (t : CacheTags) (watch : List String) :
    t.checksum watch = (watch.map t.invalidations).sum := by
  have hfold (n : Nat) : watch.foldl (fun n tag => n + t.invalidations tag) n =
      n + (watch.map t.invalidations).sum := by
    induction watch generalizing n with
    | nil => rfl
    | cons tag rest ih => rw [List.foldl_cons, ih, List.map_cons, List.sum_cons, Nat.add_assoc]
  rw [checksum, hfold, Nat.zero_add]

theorem checksum_invalidate (t : CacheTags) (told watch : List String) :
    (t.invalidate told).checksum watch = t.checksum watch + hits told watch := by
  have hcount : (t.invalidate told).invalidations = fun tag =>
      t.invalidations tag + told.count tag :=
    funext (invalidations_invalidate t told)
  rw [checksum_eq_sum, checksum_eq_sum, hcount, hits, List.sum_map_add]

theorem checksum_invalidate_start (told watch : List String) :
    (invalidate {} told).checksum watch = hits told watch := by
  have hstart : checksum {} watch = 0 := by
    rw [checksum_eq_sum, List.sum_eq_zero]
    rintro n hn
    obtain ⟨tag, -, rfl⟩ := List.mem_map.1 hn
    rfl
  rw [checksum_invalidate, hstart, Nat.zero_add]

def afterAll (batches : List (List String)) : CacheTags := batches.foldl invalidate {}

/-- It does not matter how invalidations are put into batches. -/
theorem checksum_afterAll (batches : List (List String)) (watch : List String) :
    (afterAll batches).checksum watch = hits batches.flatten watch := by
  have hflat : afterAll batches = invalidate {} batches.flatten := List.foldl_flatten.symm
  rw [hflat, checksum_invalidate_start]

/-- A later checksum differs from an earlier one, and is greater, exactly if a watched tag
was invalidated in between. If the watched tags are told of fewer than 2 ^ 64 times in all,
each counted as often as it is watched, then no part of such a sum, a single counter among
them, gets there at any time. -/
theorem stale_iff_tag_moved (history later : List (List String)) (watch : List String)
    (bound : hits (history ++ later).flatten watch < 2 ^ 64) :
    let before := (afterAll history).checksum watch
    let after := (afterAll (history ++ later)).checksum watch
    (after ≠ before ↔ ∃ batch ∈ later, ∃ tag ∈ batch, tag ∈ watch) ∧
    (before < after ↔ ∃ batch ∈ later, ∃ tag ∈ batch, tag ∈ watch) ∧
    ∀ told part, told.Sublist (history ++ later).flatten → part.Sublist watch →
      (invalidate {} told).checksum part < 2 ^ 64 := by
  intro before after
  have hafter : after = before + hits later.flatten watch := by
    simp only [before, after, checksum_afterAll, List.flatten_append, hits_append]
  have hmoved : 0 < hits later.flatten watch ↔ ∃ batch ∈ later, ∃ tag ∈ batch, tag ∈ watch := by
    rw [hits_pos_iff]
    constructor
    · rintro ⟨tag, htag, hwatch⟩
      obtain ⟨batch, hbatch, hmem⟩ := List.mem_flatten.1 htag
      exact ⟨batch, hbatch, tag, hmem, hwatch⟩
    · rintro ⟨batch, hbatch, tag, hmem, hwatch⟩
      exact ⟨tag, List.mem_flatten.2 ⟨batch, hbatch, hmem⟩, hwatch⟩
  refine ⟨?_, ?_, fun told part htold hpart => ?_⟩
  · rw [← hmoved, hafter]
    omega
  · rw [← hmoved, hafter]
    omega
  · rw [checksum_invalidate_start]
    exact (hits_mono htold hpart).trans_lt bound

/-- An article is watched twice; it is told of once before, and later twice in one batch. -/
theorem stale_iff_tag_moved_article :
    let history := [["synonyms:node.article"]]
    let later := [["synonyms:node.page"],
      ["synonyms:node.article", "synonyms:node.page", "synonyms:node.article"]]
    let watch := ["synonyms:node.article", "synonyms:node.tag", "synonyms:node.article"]
    hits (history ++ later).flatten watch < 2 ^ 64 ∧
      (afterAll history).checksum watch < (afterAll (history ++ later)).checksum watch := by
  intro history later watch
  have bound : hits (history ++ later).flatten watch < 2 ^ 64 := by decide
  exact ⟨bound, (stale_iff_tag_moved history later watch bound).2.1.2
    ⟨["synonyms:node.article", "synonyms:node.page", "synonyms:node.article"], by simp [later],
      "synonyms:node.article", by simp, by simp [watch]⟩⟩

end CacheTags
end SynonymLookup
