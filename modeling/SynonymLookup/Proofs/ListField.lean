import SynonymLookup.ListField
import SynonymLookup.Proofs.Lookup.Union

/-! The computed list field: the synonyms of an entity without repetition, behind its label where
that is wanted. An entity without a label has an empty text in the place of the label. -/

namespace SynonymLookup
namespace ListField

open Service Repository Lookup

variable {s t : Service} {e : Entity} {names : List String}

/-- The synonyms behind the label, if it is wanted and there is one. A synonym equal
to the label gives way to it. -/
def listed (wanted : ListFieldSettings) (e : Entity) (synonyms : List String) : List String :=
  if wanted.includeEntityLabel = true ∧ e.labelText ≠ "" then
    e.labelText :: synonyms.filter (· != e.labelText)
  else synonyms

theorem settings_on {wanted : ListFieldSettings} (h : settings.on s = (.ok wanted, t)) : t = s := by
  unfold settings at h
  rcases getStored_on (α := ListFieldSettings) ListFieldSettings.key s with
    ⟨-, hstored⟩ | ⟨_, _, -, -, hstored⟩ | ⟨_, hstored, -⟩
  · rw [Step.on_bind_ok hstored] at h
    cases h
    rfl
  · rw [Step.on_bind_ok hstored] at h
    cases h
    rfl
  · rw [Step.on_bind_error hstored] at h
    cases h

theorem values_on (h : (values e).on s = (.ok names, t)) :
    ∃ wanted synonyms, settings.on s = (.ok wanted, s) ∧
      (entitySynonyms e).on s = (.ok synonyms, t) ∧
      names = distinct ((if wanted.includeEntityLabel then [e.labelText] else []) ++ synonyms) := by
  obtain ⟨wanted, u, hwanted, hrest⟩ := Step.exists_of_on_bind h
  obtain rfl := settings_on hwanted
  obtain ⟨synonyms, v, hsynonyms, hrest⟩ := Step.exists_of_on_bind hrest
  cases hrest
  exact ⟨wanted, synonyms, hwanted, hsynonyms, rfl⟩

theorem empty_notMem_synonyms {synonyms : List String} (builtin : s.registry = Registry.builtin)
    (h : (entitySynonyms e).on s = (.ok synonyms, t)) : "" ∉ synonyms := by
  obtain ⟨list, -, rfl⟩ := entitySynonyms_on h
  intro hempty
  obtain ⟨c, -, p, hp, hname⟩ := mem_gathered_iff.1 ((mem_distinct _ _).1 hempty)
  rw [Configuration.provider, builtin] at hp
  exact ne_empty_of_mem_synonyms hp hname rfl

/-- Whenever the list is computed it has no repetition. It is what it should be, the
synonyms behind the label if that is wanted and there is one, and without an empty text,
exactly if no label is wanted of an entity that has none and no provider gives an empty
text, which the built-in ones never do. -/
theorem values_eq_listed_iff (h : (values e).on s = (.ok names, t)) :
    ∃ wanted synonyms, settings.on s = (.ok wanted, s) ∧
      (entitySynonyms e).on s = (.ok synonyms, t) ∧
      names.Nodup ∧ (s.registry = Registry.builtin → "" ∉ synonyms) ∧
      (names = listed wanted e synonyms ∧ "" ∉ names ↔
        (wanted.includeEntityLabel = true → e.labelText ≠ "") ∧ "" ∉ synonyms) := by
  obtain ⟨wanted, synonyms, hwanted, hsynonyms, rfl⟩ := values_on h
  have hnodup : synonyms.Nodup := by
    obtain ⟨list, -, rfl⟩ := entitySynonyms_on hsynonyms
    exact nodup_distinct _
  refine ⟨wanted, synonyms, hwanted, hsynonyms, nodup_distinct _,
    fun builtin => empty_notMem_synonyms builtin hsynonyms, ?_⟩
  cases hlabel : wanted.includeEntityLabel with
  | false => simp [listed, hlabel, distinct_of_nodup hnodup]
  | true =>
    rw [if_pos rfl, List.singleton_append, distinct_cons hnodup]
    by_cases hnone : e.labelText = ""
    · simp [hnone]
    · simp [listed, hlabel, hnone, Ne.symm hnone]

def labelledNotices : Service :=
  { unitedService with
    blobs := unitedService.blobs.insert ListFieldSettings.key (ListFieldSettings.toJson ⟨true⟩) }

def namedFox : Entity := { draftedFox with label := some "Renard" }

theorem values_eq_listed_iff_fox :
    ∃ t, (values namedFox).on labelledNotices = (.ok ["Renard", "Reynard"], t) ∧
      "" ∉ ["Renard", "Reynard"] ∧
      ∃ wanted synonyms, settings.on labelledNotices = (.ok wanted, labelledNotices) ∧
        ["Renard", "Reynard"] = listed wanted namedFox synonyms := by
  have hvalues : ((values namedFox).on labelledNotices).1 = .ok ["Renard", "Reynard"] := by
    decide +kernel
  have hlisted := Step.on_eq_of_fst hvalues
  obtain ⟨wanted, synonyms, hwanted, hsynonyms, -, hbuiltin, hiff⟩ := values_eq_listed_iff hlisted
  obtain ⟨hsame, hempty⟩ := hiff.2 ⟨fun _ => by decide, hbuiltin rfl⟩
  exact ⟨_, hlisted, hempty, wanted, synonyms, hwanted, hsame⟩

/-- An entity without a label has an empty text in front of its synonyms, though none
of these is empty. -/
theorem empty_label_listed :
    draftedFox.label = none ∧
    ((entitySynonyms draftedFox).on labelledNotices).1 = .ok ["Reynard", "Renard"] ∧
    ((values draftedFox).on labelledNotices).1 = .ok ["", "Reynard", "Renard"] := by
  decide +kernel

end ListField
end SynonymLookup
