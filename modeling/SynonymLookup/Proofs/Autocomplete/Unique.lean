import Mathlib.Data.List.Nodup
import SynonymLookup.Proofs.Autocomplete.Suggestions

/-! With uniqueness an entity is suggested once, however many of its synonyms match; but its label
is suggested as often as it is selected, which is once for each time that its bundle is a target. -/

namespace SynonymLookup
namespace Autocomplete

open Service Repository

variable {s : Service} {a : AutocompleteSettings} {keyword : String}

theorem map_fst_labelReference (s : Service) (a : AutocompleteSettings) (keyword : String) :
    (labelReference s a keyword).map Prod.fst = (labelBundles a s.schema).flatMap fun bundle =>
      ((s.store.entitiesOf a.targetType).values.filter fun e =>
        e.bundle == bundle && Like.isMatch (a.mode.pattern keyword) e.labelText).map fun e =>
          e.id := by
  simp only [labelReference, List.map_flatMap, List.map_map]
  rfl

theorem nodup_labelReference (built : s.store.Built) (hbundles : a.targetBundles.Nodup) :
    ((labelReference s a keyword).map Prod.fst).Nodup := by
  have hlabels : (labelBundles a s.schema).Nodup := by
    by_cases hall : a.targetBundles.isEmpty = true
    · rw [labelBundles, if_pos hall]
      exact built.bundleIds_nodup a.targetType
    · rwa [labelBundles, if_neg hall]
  rw [map_fst_labelReference, List.nodup_flatMap]
  refine ⟨fun bundle _ => ?_, hlabels.imp fun {bundle bundle'} hne => ?_⟩
  · exact (built.consistent.ids_nodup a.targetType).sublist (List.filter_sublist.map Entity.id)
  · intro id hid hid'
    obtain ⟨e, he, rfl⟩ := List.mem_map.1 hid
    obtain ⟨e', he', hsame⟩ := List.mem_map.1 hid'
    obtain ⟨hstored, hmatch⟩ := List.mem_filter.1 he
    obtain ⟨hstored', hmatch'⟩ := List.mem_filter.1 he'
    have hload := built.consistent.load_of_mem hstored
    rw [← hsame, built.consistent.load_of_mem hstored', Option.some.injEq] at hload
    subst hload
    simp only [Bool.and_eq_true, beq_iff_eq] at hmatch hmatch'
    exact hne (hmatch.1.symm.trans hmatch'.1)

/-- The labels are suggested first, under the ids that are not to be suggested again. -/
theorem map_id_take_labels (s : Service) (a : AutocompleteSettings) (keyword : String) (n : Nat) :
    ((labels s a keyword).take n).map (·.id) =
      ((labelReference s a keyword).take n).map Prod.fst := by
  rw [← map_labels, ← List.map_take, List.map_map]
  rfl

section Unique

variable (hunique : a.onlyUnique = true)
include hunique

theorem suggestedFirst_of_unique (s : Service) (keyword : String) (n : Nat) :
    suggestedFirst a ((labels s a keyword).take n) =
      ((labelReference s a keyword).take n).map Prod.fst := by
  rw [suggestedFirst, if_pos hunique, map_id_take_labels]

/-- What is taken beside the labels is of other entities than these, and of each entity once. -/
theorem taken_new (s : Service) (keyword : String) :
    ((taken s a keyword).found.map (·.entityId)).Nodup ∧ ∀ m ∈ (taken s a keyword).found,
      m ∈ allMatches s a keyword ∧
        m.entityId ∉ ((labelReference s a keyword).take a.size).map Prod.fst := by
  obtain ⟨added, htaken, hnodup, hadded⟩ := exists_added hunique s keyword
    (a.size - ((labels s a keyword).take a.size).length)
    ⟨[], suggestedFirst a ((labels s a keyword).take a.size)⟩
    (configurationsOn s a.targetType (targetBundles a s.schema))
  have hfound : (taken s a keyword).found = added := congrArg Taken.found htaken
  rw [hfound, ← suggestedFirst_of_unique hunique]
  exact ⟨hnodup, fun m hm => ⟨(hadded m hm).1, (hadded m hm).2.1⟩⟩

variable (registry : s.registry = Registry.builtin) (built : s.store.Built)
include registry built

/-- With uniqueness the suggestions are pairwise of different entities exactly if the labels among
them are. They are if no bundle is a target twice. -/
theorem suggestions_nodup_iff {suggestions : List Suggestion}
    (h : ((suggest keyword a).on s).1 = .ok suggestions) :
    ((suggestions.map (·.entityId)).Nodup ↔
      (((labelReference s a keyword).take a.size).map Prod.fst).Nodup) ∧
    (a.targetBundles.Nodup → (suggestions.map (·.entityId)).Nodup) := by
  have hiff : (suggestions.map (·.entityId)).Nodup ↔
      (((labelReference s a keyword).take a.size).map Prod.fst).Nodup := by
    by_cases hsize : a.size = 0
    · have hnone : suggestions = [] := by
        rw [suggest, if_pos hsize] at h
        exact (Except.ok.inj h).symm
      simp [hnone, hsize]
    obtain ⟨entities, shown, -, hpresented, rfl⟩ := exists_of_suggest registry built h hsize
    obtain ⟨hpairs, -, -⟩ := of_presented hpresented
    obtain ⟨hnodup, hnew⟩ := taken_new hunique s keyword
    have hshown : shown.map (·.entityId) =
        ((taken s a keyword).found.filter (isShown s entities)).map (·.entityId) := by
      have hids := congrArg (List.map Prod.fst) hpairs
      rwa [List.map_map, List.map_map] at hids
    have hfirst : (((labels s a keyword).take a.size).map ofLabel).map (·.entityId) =
        ((labelReference s a keyword).take a.size).map Prod.fst := by
      rw [List.map_map, ← map_id_take_labels]
      rfl
    rw [List.map_append, hfirst, hshown, List.nodup_append]
    refine ⟨And.left, fun hlabels => ⟨hlabels, hnodup.sublist (List.filter_sublist.map _), ?_⟩⟩
    intro i hi j hj hij
    obtain ⟨m, hm, rfl⟩ := List.mem_map.1 hj
    exact (hnew m (List.mem_filter.1 hm).1).2 (hij ▸ hi)
  exact ⟨hiff, fun hbundles => hiff.2
    ((nodup_labelReference built hbundles).sublist ((List.take_sublist _ _).map _))⟩

end Unique

theorem suggestions_nodup_fox :
    ((suggest "fox" { targetType := "node", onlyUnique := true }).on (foxService "1" "2")).1 =
      .ok [⟨⟨"1"⟩, "Fox", "Fox", none⟩, ⟨⟨"2"⟩, "Owl", "Foxy", some "Foxy"⟩] ∧
    ([⟨⟨"1"⟩, "Fox", "Fox", none⟩, ⟨⟨"2"⟩, "Owl", "Foxy", some "Foxy"⟩].map
      Suggestion.entityId).Nodup := by
  obtain ⟨-, -, hsuggest⟩ := suggest_fox
  exact ⟨hsuggest, (suggestions_nodup_iff (s := foxService "1" "2") rfl rfl (built_foxStore "1" "2")
    hsuggest).2 List.nodup_nil⟩

/-- A bundle that is a target twice has its labels suggested twice. -/
theorem label_suggested_twice : ∃ suggestions,
    ((suggest "fox"
      { targetType := "node", targetBundles := ["article", "article"], onlyUnique := true }).on
        (foxService "1" "2")).1 = .ok suggestions ∧
    suggestions.map (·.entityId) = [⟨"1"⟩, ⟨"1"⟩, ⟨"2"⟩] ∧
    ¬ (suggestions.map (·.entityId)).Nodup := by
  refine ⟨[⟨⟨"1"⟩, "Fox", "Fox", none⟩, ⟨⟨"1"⟩, "Fox", "Fox", none⟩,
    ⟨⟨"2"⟩, "Owl", "Foxy", some "Foxy"⟩], ?_, rfl, ?_⟩
  · decide +kernel
  · decide

end Autocomplete
end SynonymLookup
