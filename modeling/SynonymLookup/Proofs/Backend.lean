import SynonymLookup.Proofs.KeyMap
import SynonymLookup.Proofs.Step

/-! Accesses that are in service reach the store. A query that is answered changes nothing but the
number of queries. -/

namespace SynonymLookup
namespace Backend

def counted (b : Backend) : Backend :=
  { b with store := { b.store with executed := b.store.executed + 1 } }

def Up (b : Backend) (a : Access) : Prop := b.outages.down.contains a = false

/-- All that providers use answers, and nothing is left out. -/
structure InService (b : Backend) : Prop where
  resolve : b.Up .resolve
  execute : b.Up .execute
  loadMultiple : b.Up .loadMultiple
  hidden : b.outages.hidden = []

theorem inService_of_store (s : Store) : InService { store := s } where
  resolve := rfl
  execute := rfl
  loadMultiple := rfl
  hidden := rfl

theorem allow_of_up {b : Backend} {a : Access} (h : b.Up a) : b.outages.allow a = .ok () := by
  unfold Up at h
  unfold Outages.allow
  rw [h]
  rfl

theorem locate_of_up {b : Backend} (h : b.Up .resolve) (entityType column : String) :
    b.locate entityType column = b.schema.locate entityType column := by
  unfold locate
  rw [allow_of_up h]
  rfl

theorem load_of_up {b : Backend} (h : b.Up .load) (entityType : String) (id : EntityId) :
    b.load entityType id = .ok (b.store.load entityType id) := by
  unfold load
  rw [allow_of_up h]
  rfl

theorem select_eq_ok {b : Backend} {q : Selection} {found : List Referenceable}
    (h : b.select q = .ok found) : (b.schema.entityType? q.targetType).isSome ∧
      found = if q.limit = 0 then b.store.labelMatches q
        else (b.store.labelMatches q).take q.limit := by
  rw [select] at h
  cases hallow : b.outages.allow .selection with
  | error e =>
    rw [hallow] at h
    cases h
  | ok _ =>
    rw [hallow] at h
    replace h : b.store.select q = .ok found := h
    rw [Store.select] at h
    cases ht : b.store.schema.entityType? q.targetType with
    | none =>
      simp only [ht, Option.isNone_none, if_true] at h
      cases h
    | some t =>
      simp only [ht, Option.isNone_some, Bool.false_eq_true, if_false] at h
      refine ⟨by rw [schema, ht]; rfl, ?_⟩
      split at h <;> cases h
      · rename_i hlimit
        rw [if_pos hlimit]
      · rename_i hlimit
        rw [if_neg hlimit]

theorem get?_loadAll {b : Backend} (h : b.InService) (entityType : String) (ids : List EntityId)
    (id : String) : ((b.loadAll entityType ids).toOption.getD .empty).get? id =
      (b.store.loadAll entityType ids).get? id := by
  have hanswer : (b.loadAll entityType ids).toOption.getD .empty =
      (b.store.loadAll entityType ids).filter fun id _ => !b.outages.hidden.contains ⟨id⟩ := by
    unfold loadAll
    rw [allow_of_up h.loadMultiple]
    rfl
  rw [hanswer, KeyMap.get?_filter, h.hidden]
  cases (b.store.loadAll entityType ids).get? id <;> rfl

theorem execute_of_up {b : Backend} (h : b.Up .execute) (q : Query) :
    (execute q).on b = ((b.store.rows q).mapError .storage, b.counted) := by
  have hallow : (Step.read fun b : Backend => b.outages.allow .execute).on b = (.ok (), b) := by
    rw [Step.on_read, allow_of_up h]
    rfl
  unfold execute
  rw [Step.on_bind_ok hallow, Step.on_bind_ok (Step.on_get b)]
  unfold Store.execute
  dsimp only
  rw [Step.on_bind_ok (Step.on_set b _)]
  cases b.store.rows q <;> rfl

theorem execute_eq (q : Query) (b : Backend) :
    (execute q).on b = match b.outages.allow .execute with
      | .error e => (.error (.storage e), b)
      | .ok _ => ((b.store.rows q).mapError .storage, b.counted) := by
  by_cases hup : b.Up .execute
  · rw [execute_of_up hup, allow_of_up hup]
  · have hdown : b.outages.down.contains .execute = true := by simpa [Up] using hup
    have hrefused : b.outages.allow .execute =
        .error (.backend (Access.execute.name ++ " failed")) := by
      rw [Outages.allow, if_pos hdown]
      rfl
    have hread : (Step.read fun b : Backend => b.outages.allow .execute).on b =
        (.error (.storage (.backend (Access.execute.name ++ " failed"))), b) := by
      rw [Step.on_read, hrefused]
      rfl
    rw [hrefused]
    exact Step.on_bind_error hread

theorem execute_on {b : Backend} (h : b.Up .execute) {q : Query} {rows : List Row}
    (hrows : b.store.rows q = .ok rows) : (execute q).on b = (.ok rows, b.counted) := by
  rw [execute_of_up h, hrows]
  rfl

theorem execute_cases (q : Query) (b : Backend) :
    (∃ e, (execute q).on b = (.error e, b)) ∨
      (execute q).on b = ((b.store.rows q).mapError .storage, b.counted) := by
  rw [execute_eq]
  cases b.outages.allow .execute with
  | error e => exact .inl ⟨_, rfl⟩
  | ok _ => exact .inr rfl

end Backend

end SynonymLookup
