import SynonymLookup.Proofs.Condition.Meaning
import SynonymLookup.Proofs.Evaluation
import SynonymLookup.Store.Query

/-! The rows of a query whose columns all lead somewhere and whose leaves are given what their
operators compare with: they are the candidates that meet the condition, in order. -/

namespace SynonymLookup
namespace Store

def valuesSeen (s : Store) (e : Entity) (binding : KeyMap Json) (column : Target) : List Json :=
  match binding.get? column.name with
  | some v => [v]
  | none => s.valuesAt e column.location

def leafTruth (s : Store) (e : Entity) (binding : KeyMap Json) (c : ComparisonOf Target) : Bool :=
  Evaluation.accepts c.operator (s.valuesSeen e binding c.column) c.value

theorem leafHolds_eq (s : Store) (e : Entity) (binding : KeyMap Json) {c : ComparisonOf Target}
    (h : c.operator.Takes c.value) :
    s.leafHolds e binding c = .ok (s.leafTruth e binding c) := Evaluation.evaluate_eq_ok h _

theorem rows_congr {s s' : Store} (hschema : s'.schema = s.schema)
    (hentities : s'.entities = s.entities) (q : Query) : s'.rows q = s.rows q := by
  obtain ⟨schema, entities, reindex, executed⟩ := s
  obtain ⟨schema', entities', reindex', executed'⟩ := s'
  cases hschema
  cases hentities
  have htargets (names : List String) :
      targets ⟨schema, entities, reindex', executed'⟩ q.entityType names =
        targets ⟨schema, entities, reindex, executed⟩ q.entityType names := by
    induction names with
    | nil => rfl
    | cons name rest ih =>
      rw [targets, targets, ih]
      rfl
  simp only [rows, htargets]
  rfl

section CollectRows

variable {test : Entity → KeyMap Json → Except StorageError Bool}

theorem collectRows_of_error {limit : Option Nat} {taken : Nat} {x : Entity × KeyMap Json}
    {e : StorageError} (h : test x.1 x.2 = .error e) (rest : List (Entity × KeyMap Json)) :
    collectRows limit test taken (x :: rest) = .error e := by
  rw [collectRows, h]
  rfl

theorem collectRows_of_fail {limit : Option Nat} {taken : Nat} {x : Entity × KeyMap Json}
    (h : test x.1 x.2 = .ok false) (rest : List (Entity × KeyMap Json)) :
    collectRows limit test taken (x :: rest) = collectRows limit test taken rest := by
  rw [collectRows, h]
  rfl

theorem collectRows_of_pass {limit : Option Nat} {taken : Nat} {x : Entity × KeyMap Json}
    (h : test x.1 x.2 = .ok true) (rest : List (Entity × KeyMap Json)) :
    collectRows limit test taken (x :: rest) =
      if limit.any (· ≤ taken + 1) then .ok [⟨x.1.id, x.2⟩]
      else (collectRows limit test (taken + 1) rest).map (⟨x.1.id, x.2⟩ :: ·) := by
  rw [collectRows, h]
  show (if limit.any (· ≤ taken + 1) then _ else _) = _
  split
  · rfl
  · cases collectRows limit test (taken + 1) rest <;> rfl

def passing (test : Entity → KeyMap Json → Except StorageError Bool) (x : Entity × KeyMap Json) :
    Bool := (test x.1 x.2).toOption.getD false

theorem passing_of_ok {x : Entity × KeyMap Json} {verdict : Bool} (h : test x.1 x.2 = .ok verdict) :
    passing test x = verdict := by rw [passing, h, Except.toOption, Option.getD_some]

theorem sublist_of_collectRows {limit : Option Nat} {taken : Nat} {l : List (Entity × KeyMap Json)}
    {rows : List Row} (h : collectRows limit test taken l = .ok rows) :
    rows.Sublist ((l.filter (passing test)).map fun x => ⟨x.1.id, x.2⟩) := by
  induction l generalizing taken rows with
  | nil =>
    cases h
    exact .slnil
  | cons x rest ih =>
    cases hx : test x.1 x.2 with
    | error e =>
      rw [collectRows_of_error hx] at h
      cases h
    | ok verdict =>
      cases verdict with
      | false =>
        rw [collectRows_of_fail hx] at h
        rw [List.filter_cons_of_neg (by simp [passing_of_ok hx])]
        exact ih h
      | true =>
        rw [collectRows_of_pass hx] at h
        rw [List.filter_cons_of_pos (passing_of_ok hx), List.map_cons]
        split at h
        · cases h
          exact (List.nil_sublist _).cons_cons _
        · cases hrest : collectRows limit test (taken + 1) rest with
          | error e =>
            rw [hrest] at h
            cases h
          | ok later =>
            rw [hrest] at h
            cases h
            exact (ih hrest).cons_cons _

theorem mem_collectRows {limit : Option Nat} {taken : Nat} {l : List (Entity × KeyMap Json)}
    {rows : List Row} (h : collectRows limit test taken l = .ok rows) {row : Row}
    (hrow : row ∈ rows) :
    ∃ x ∈ l, row = ⟨x.1.id, x.2⟩ ∧ test x.1 x.2 = .ok true := by
  obtain ⟨x, hx, rfl⟩ := List.mem_map.1 ((sublist_of_collectRows h).subset hrow)
  obtain ⟨hmem, hpass⟩ := List.mem_filter.1 hx
  refine ⟨x, hmem, rfl, ?_⟩
  cases htest : test x.1 x.2 with
  | error e =>
    rw [passing, htest] at hpass
    cases hpass
  | ok verdict => rw [← hpass, passing_of_ok htest]

end CollectRows

theorem collectRows_eq {test : Entity → KeyMap Json → Except StorageError Bool}
    {truth : Entity × KeyMap Json → Bool} {l : List (Entity × KeyMap Json)}
    (h : ∀ x ∈ l, test x.1 x.2 = .ok (truth x)) (taken : Nat) :
    collectRows none test taken l = .ok ((l.filter truth).map fun x => ⟨x.1.id, x.2⟩) := by
  induction l generalizing taken with
  | nil => rfl
  | cons x rest ih =>
    have ih (n : Nat) := ih (fun y hy => h y (List.mem_cons_of_mem _ hy)) n
    have hx := h x List.mem_cons_self
    rw [collectRows, hx]
    cases ht : truth x with
    | true =>
      rw [List.filter_cons_of_pos ht, List.map_cons]
      show (do return (⟨x.1.id, x.2⟩ : Row) :: (← collectRows none test (taken + 1) rest)) = _
      rw [ih]
      rfl
    | false =>
      rw [List.filter_cons_of_neg (by simp [ht])]
      exact ih taken

/-- The rows without a limit, where `located` gives every column of the condition its place. -/
theorem rows_eq {s : Store} {q : Query} {located : Column → Target} {columns : List Target}
    (hlimit : q.limit = none) (hresolved : q.condition.firstPlaceholder? = none)
    (htype : (s.schema.entityType? q.entityType).isSome)
    (hlocated : ∀ c ∈ q.condition.columns, s.targetOf q.entityType c = .ok (located c))
    (hcolumns : s.targets q.entityType q.columns = .ok columns)
    (htakes : ∀ l ∈ q.condition.leaves, l.operator.Takes l.value) :
    s.rows q = .ok (((s.candidates q.entityType columns).filter fun x =>
      (q.condition.map located).meets (s.leafTruth x.1 x.2)).map fun x => ⟨x.1.id, x.2⟩) := by
  have hknown : (s.schema.entityType? q.entityType).isNone = false := by simpa using htype
  have hcondition := ConditionOf.traverse_eq_map hlocated
  have hleaves : ∀ x ∈ s.candidates q.entityType columns,
      (q.condition.map located).holds (s.leafHolds x.1 x.2) =
        .ok ((q.condition.map located).meets (s.leafTruth x.1 x.2)) := by
    intro x _
    apply ConditionOf.holds_eq_meets
    intro l hl
    rw [ConditionOf.leaves_map, List.mem_map] at hl
    obtain ⟨l, hl, rfl⟩ := hl
    exact s.leafHolds_eq _ _ (htakes l hl)
  unfold rows
  simp only [hresolved, hknown, hcondition, hcolumns, hlimit]
  exact collectRows_eq hleaves 0

theorem candidates_single (s : Store) (entityType : String) (column : Target) :
    s.candidates entityType [column] = (s.entitiesOf entityType).values.flatMap fun e =>
      (s.valuesAt e column.location).map fun v => (e, KeyMap.empty.insert column.name v) := by
  simp [candidates, bindings, Function.comp_def]

theorem valuesSeen_selected (s : Store) (e : Entity) (v : Json) (column : Target) :
    s.valuesSeen e (KeyMap.empty.insert column.name v) column = [v] := by
  simp [valuesSeen]

theorem valuesSeen_other (s : Store) (e : Entity) (v : Json) {name : String} {column : Target}
    (h : name ≠ column.name) :
    s.valuesSeen e (KeyMap.empty.insert name v) column = s.valuesAt e column.location := by
  simp [valuesSeen, h]

end Store
end SynonymLookup
