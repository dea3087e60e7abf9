import SynonymLookup.Proofs.Lookup.Alike
import SynonymLookup.Proofs.Provider.Candidates

/-! What one configuration contributes to a search. It always answers, and as its
provider picks among pairs that stand before it is asked, more conditions leave out some
pairs and change nothing else. -/

namespace SynonymLookup

theorem Condition.Askable.and_singleton {c : Condition} (h : c.Askable) :
    Condition.Askable (.and [c]) := by
  constructor
  · simpa using h.placeholders
  · simpa using h.takes

theorem Condition.Askable.and_notIn {c : Condition} (h : c.Askable) (ids : List Json) :
    Condition.Askable (.and [c, Condition.onEntityId .notIn (.array ids)]) := by
  constructor
  · simpa [Condition.onEntityId, Condition.compare, or_imp, forall_and, Column.isPlaceholder]
      using h.placeholders
  · simpa [Condition.onEntityId, Condition.compare, or_imp, forall_and, Operator.Takes, Json.items?]
      using h.takes

namespace Lookup

open Service Repository

variable {s : Service} {c : Configuration} {condition : Condition}

/-- What a configuration contributes to a search, nothing if the search fails. -/
def contribution (s : Service) (condition : Condition) (c : Configuration) : List SynonymResult :=
  ((findIn c condition).on s).1.toOption.getD []

/-- A configuration picks among candidates: stored entities of the type its provider is derived for,
and none if it has no provider. -/
theorem exists_candidates (registry : s.registry = Registry.builtin) (built : s.store.Built)
    (c : Configuration) : ∃ pool : List Candidate,
      (∀ y ∈ pool, ∃ p, c.provider s.registry s.schema = .ok p ∧
        (s.store.load p.definition.entityType y.result.entityId).isSome) ∧
      ∀ condition : Condition, condition.Askable →
        ((findIn c condition).on s).1 = .ok (Candidate.meeting pool condition) := by
  cases hp : c.provider s.registry s.schema with
  | error e =>
    refine ⟨[], fun _ hy => absurd hy List.not_mem_nil, fun condition _ => ?_⟩
    have hdefect : e.isQueryDefect = false := Registry.isQueryDefect_create hp
    have hsearch : (search c condition).on s = (.error e, s) :=
      Step.on_bind_error (by rw [provider_on, hp])
    rw [findIn, Step.on_tryCatch, hsearch]
    simp only [hdefect, Bool.false_eq_true, if_false, Step.on_pure]
    rfl
  | ok p =>
    have hmade := hp
    rw [Configuration.provider, registry] at hmade
    obtain ⟨pool, hstored, hpool⟩ := Registry.exists_pool built hmade
    refine ⟨pool, fun y hy => ⟨p, rfl, hstored y hy⟩, fun condition hc => ?_⟩
    have hprovider : (provider c).on s = (.ok p, s) := by rw [provider_on, hp]
    have hsearch : (search c condition).on s = (onBackend (p.find condition)).on s :=
      Step.on_bind_ok hprovider
    rw [onBackend_on (Prod.eta ((p.find condition).on s.backend)).symm] at hsearch
    rw [findIn, Step.on_tryCatch, hsearch]
    rcases hpool condition hc with hfound | ⟨rfl, e, herror, hdefect⟩
    · rw [hfound]
    · rw [herror]
      simp only [hdefect, Bool.false_eq_true, if_false, Step.on_pure]
      rfl

section Asked

variable (registry : s.registry = Registry.builtin) (built : s.store.Built)
include registry built

/-- One configuration never makes a search fail. -/
theorem findIn_fst (hc : condition.Askable) (c : Configuration) :
    ((findIn c condition).on s).1 = .ok (contribution s condition c) := by
  obtain ⟨pool, -, hpool⟩ := exists_candidates registry built c
  rw [contribution, hpool condition hc]
  rfl

theorem exists_provider_of_mem_contribution (hc : condition.Askable) {r : SynonymResult}
    (hr : r ∈ contribution s condition c) : ∃ p, c.provider s.registry s.schema = .ok p ∧
      (s.store.load p.definition.entityType r.entityId).isSome := by
  obtain ⟨pool, hstored, hpool⟩ := exists_candidates registry built c
  have hmeeting : r ∈ Candidate.meeting pool condition := by
    rw [contribution, hpool condition hc] at hr
    exact hr
  obtain ⟨y, hy, rfl⟩ := List.mem_map.1 hmeeting
  exact hstored y (List.mem_filter.1 hy).1

theorem contribution_and_singleton (hc : condition.Askable) (c : Configuration) :
    contribution s (.and [condition]) c = contribution s condition c := by
  obtain ⟨pool, -, hpool⟩ := exists_candidates registry built c
  rw [contribution, contribution, hpool _ hc.and_singleton, hpool _ hc]
  simp [Candidate.meeting]

/-- With a list of ids to leave out, the rest of the pairs is found, in the same order. -/
theorem contribution_and_notIn (hc : condition.Askable) (ids : List Json) (c : Configuration) :
    contribution s (.and [condition, Condition.onEntityId .notIn (.array ids)]) c =
      (contribution s condition c).filter fun r =>
        Evaluation.accepts .notIn [r.entityId.toJson] (.array ids) := by
  obtain ⟨pool, -, hpool⟩ := exists_candidates registry built c
  rw [contribution, contribution, hpool _ (hc.and_notIn ids), hpool _ hc]
  simp only [Except.toOption, Option.getD_some, Candidate.meeting, List.filter_map,
    List.filter_filter]
  refine congrArg _ (List.filter_congr fun y _ => ?_)
  simp [Condition.onEntityId, Condition.compare, y.truth_id, Bool.and_comm]

end Asked

end Lookup
end SynonymLookup
