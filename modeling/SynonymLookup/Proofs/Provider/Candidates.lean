import SynonymLookup.Proofs.Provider.Bundle

/-! What a provider can find stands before it is asked: pairs of stored entities, each with the
truth of leaves at its row. A condition only picks among them, so what one condition finds tells
what another does. Nothing is asked of the names in the schema here. -/

namespace SynonymLookup

/-- A pair that a search can give, with the truth of leaves at its row. A leaf on the entity
id sees the id of the pair. -/
structure Candidate where
  result : SynonymResult
  truth : Comparison → Bool
  truth_id : ∀ operator value, truth ⟨.entityId, operator, value⟩ =
    Evaluation.accepts operator [result.entityId.toJson] value

namespace Candidate

def meeting (pool : List Candidate) (c : Condition) : List SynonymResult :=
  (pool.filter fun x => c.meets x.truth).map (·.result)

/-- Rows that are tested leaf by leaf make candidates of those that are read as results. -/
theorem exists_of_rows {ρ : Type} (entity : ρ → Entity) (covered : ρ → Bool)
    (truth : ρ → Comparison → Bool) (read : ρ → Option SynonymResult) (rows : List ρ)
    (hread : ∀ x ∈ rows, ∀ r, read x = some r → r.entityId = (entity x).id)
    (htruth : ∀ x ∈ rows, ∀ operator value, truth x ⟨.entityId, operator, value⟩ =
      Evaluation.accepts operator [(entity x).id.toJson] value) :
    ∃ pool : List Candidate, (∀ y ∈ pool, ∃ x ∈ rows, y.result.entityId = (entity x).id) ∧
      ∀ c : Condition,
        (rows.filter fun x => covered x && c.meets (truth x)).filterMap read = meeting pool c := by
  induction rows with
  | nil => exact ⟨[], fun y hy => absurd hy List.not_mem_nil, fun c => rfl⟩
  | cons x rest ih =>
    obtain ⟨pool, hstored, hpool⟩ := ih (fun y hy => hread y (List.mem_cons_of_mem _ hy))
      (fun y hy => htruth y (List.mem_cons_of_mem _ hy))
    have hlater : ∀ y ∈ pool, ∃ x' ∈ x :: rest, y.result.entityId = (entity x').id := by
      intro y hy
      obtain ⟨x', hx', hid⟩ := hstored y hy
      exact ⟨x', List.mem_cons_of_mem _ hx', hid⟩
    -- a row that is not covered, or has no text, gives nothing whatever is asked
    by_cases hcovered : covered x = true
    · cases hr : read x with
      | none =>
        refine ⟨pool, hlater, fun c => ?_⟩
        rw [← hpool c, List.filter_cons]
        split
        · rw [List.filterMap_cons, hr]
        · rfl
      | some r =>
        have hid := hread x List.mem_cons_self r hr
        let candidate : Candidate :=
          ⟨r, truth x, fun o v => by rw [htruth x List.mem_cons_self, hid]⟩
        refine ⟨candidate :: pool, fun y hy => ?_, fun c => ?_⟩
        · rcases List.mem_cons.1 hy with rfl | hy
          · exact ⟨x, List.mem_cons_self, hid⟩
          · exact hlater y hy
        · have hpool := hpool c
          rw [meeting] at hpool
          by_cases hmeets : c.meets (truth x) = true
          · simp [meeting, candidate, hcovered, hmeets, hr, hpool]
          · simp [meeting, candidate, hmeets, hpool]
    · refine ⟨pool, hlater, fun c => ?_⟩
      rw [← hpool c, List.filter_cons_of_neg (by simp [hcovered])]

end Candidate

/-- A search that picks among candidates of stored entities of a type; where the store does not
answer, it fails whatever the condition, and not because of it. -/
def Backend.PicksFrom (b : Backend) (entityType : String) (pool : List Candidate)
    (find : Condition → Step Backend (List SynonymResult)) : Prop :=
  (∀ y ∈ pool, (b.store.load entityType y.result.entityId).isSome) ∧
    ∀ c : Condition, c.Askable → ((find c).on b).1 = .ok (Candidate.meeting pool c) ∨
      pool = [] ∧ ∃ e, ((find c).on b).1 = .error e ∧ e.isQueryDefect = false

namespace Backend.PicksFrom

variable {b : Backend} {entityType : String} {find find' : Condition →
    Step Backend (List SynonymResult)}

theorem of_error (h : ∀ c, ∃ e, ((find c).on b).1 = .error e ∧ e.isQueryDefect = false) :
    b.PicksFrom entityType [] find :=
  ⟨fun _ hy => absurd hy List.not_mem_nil, fun c _ => .inr ⟨rfl, h c⟩⟩

theorem of_nil (h : ∀ c, ((find c).on b).1 = .ok []) : b.PicksFrom entityType [] find :=
  ⟨fun _ hy => absurd hy List.not_mem_nil, fun c _ => .inl (h c)⟩

theorem congr {pool : List Candidate} (h : ∀ c, (find' c).on b = (find c).on b)
    (hpicks : b.PicksFrom entityType pool find) : b.PicksFrom entityType pool find' := by
  refine ⟨hpicks.1, fun c hc => ?_⟩
  rw [h c]
  exact hpicks.2 c hc

end Backend.PicksFrom

namespace Backend

variable {b : Backend} {entityType column : String}

theorem allow_eq_error {a : Access} {e : StorageError} (h : b.outages.allow a = .error e) :
    e.isQueryDefect = false := by
  rw [Outages.allow] at h
  split at h
  · cases h
    rfl
  · cases h

theorem locate_of_eq_ok {place : Location} (h : b.locate entityType column = .ok place) :
    b.schema.locate entityType column = .ok place := by
  rw [locate] at h
  cases hallow : b.outages.allow .resolve with
  | error e =>
    rw [hallow] at h
    cases h
  | ok _ =>
    rw [hallow] at h
    exact h

theorem locate_eq_error {e : StorageError} (h : b.locate entityType column = .error e) :
    e = .unknownColumn entityType column ∨ e.isQueryDefect = false := by
  rw [locate] at h
  cases hallow : b.outages.allow .resolve with
  | error e' =>
    rw [hallow] at h
    cases h
    exact .inr (allow_eq_error hallow)
  | ok _ =>
    rw [hallow] at h
    replace h : b.schema.locate entityType column = .error e := h
    rw [Schema.locate] at h
    split at h
    · cases h
      exact .inr rfl
    · split at h
      · cases h
      · split at h
        · cases h
        · cases h
          exact .inl rfl

def targetIn (b : Backend) (t : EntityType) (column : Column) : Target :=
  (b.store.targetOf t.id column).toOption.getD ⟨"", .key ""⟩

theorem targetIn_of_eq_ok {t : EntityType} {c : Column} {target : Target}
    (h : b.store.targetOf t.id c = .ok target) : b.targetIn t c = target := by
  rw [targetIn, h]
  rfl

end Backend

namespace ProviderDefinition

variable {b : Backend} {d : ProviderDefinition} {t : EntityType} {column : String}

/-- A bound condition holds at a row if the row is covered and the condition holds with its leaves
bound. -/
theorem meets_bound_map (located : Column → Target) (truth : ComparisonOf Target → Bool)
    (c : Condition) :
    ((d.bound t column c).map located).meets truth =
      (((d.bound t column (.and [])).map located).meets truth &&
        c.meets fun l => truth { l with column := located (l.column.bind column t.keys.id) }) := by
  have hresolved (c : Condition) : ((c.resolve column t.keys.id).map located).meets truth =
      c.meets fun l => truth { l with column := located (l.column.bind column t.keys.id) } := by
    rw [Condition.resolve, ConditionOf.meets_map, ConditionOf.meets_map]
  cases hkey : t.keys.bundle with
  | none => simp [bound, hkey, hresolved]
  | some key => simp [bound, hkey, hresolved]

section Rows

variable {place : Location}

theorem targetOf_of_mem_bound (ht : b.schema.entityType? t.id = some t)
    (hplace : b.schema.locate t.id column = .ok place) {c : Condition} (hc : c.Askable) :
    ∀ x ∈ (d.bound t column c).columns, b.store.targetOf t.id x = .ok (b.targetIn t x) := by
  have hfound {x : Column} {target : Target} (h : b.store.targetOf t.id x = .ok target) :
      b.store.targetOf t.id x = .ok (b.targetIn t x) := by rw [h, Backend.targetIn_of_eq_ok h]
  intro x hx
  rw [ConditionOf.columns_eq_leaves, List.mem_map] at hx
  obtain ⟨l, hl, rfl⟩ := hx
  rcases mem_leaves_bound hl with ⟨asked, hasked, rfl⟩ | ⟨key, hkey, rfl⟩
  · have hplaceholder := hc.placeholders asked hasked
    cases hcolumn : asked.column with
    | synonym => exact hfound (Store.targetOf_named hplace)
    | entityId => exact hfound (Store.targetOf_key ht t.isKey_id)
    | named name =>
      rw [hcolumn] at hplaceholder
      cases hplaceholder
  · exact hfound (Store.targetOf_key ht (EntityType.isKey_bundle hkey))

/-- A leaf on the entity id sees the id, also in a row of the id column itself. -/
theorem leafTruth_entityId (built : b.store.Built) (ht : b.schema.entityType? t.id = some t)
    (hplace : b.schema.locate t.id column = .ok place) {e : Entity}
    (he : e ∈ (b.store.entitiesOf t.id).values) {v : Json} (hv : v ∈ b.store.valuesAt e place)
    (operator : Operator) (value : Json) :
    b.store.leafTruth e (KeyMap.empty.insert column v)
      ⟨b.targetIn t (.named t.keys.id), operator, value⟩ =
        Evaluation.accepts operator [e.id.toJson] value := by
  have htype : e.entityType = t.id :=
    (built.consistent.id_of_load (built.consistent.load_of_mem he)).1
  have hknown : b.store.schema.entityType? e.entityType = some t := by rw [htype]; exact ht
  have htarget := Store.targetOf_key (s := b.store) ht t.isKey_id
  have hids := Store.valuesAt_id hknown
  rw [Store.leafTruth, Backend.targetIn_of_eq_ok htarget]
  by_cases hcolumn : column = t.keys.id
  · subst hcolumn
    have hsame : place = .key t.keys.id := by
      have hnamed := Store.targetOf_named (s := b.store) hplace
      rw [htarget] at hnamed
      cases hnamed
      rfl
    have hseen : b.store.valuesSeen e (KeyMap.empty.insert t.keys.id v)
        ⟨t.keys.id, .key t.keys.id⟩ = [v] := Store.valuesSeen_selected _ _ _ ⟨_, _⟩
    rw [hsame, hids, List.mem_singleton] at hv
    rw [hv] at hseen ⊢
    simp only [hseen]
  · rw [Store.valuesSeen_other _ _ _ hcolumn, hids]

theorem exists_picked (built : b.store.Built) (ht : b.schema.entityType? t.id = some t)
    (hplace : b.schema.locate t.id column = .ok place) (d : ProviderDefinition) :
    ∃ pool : List Candidate, (∀ y ∈ pool, (b.store.load t.id y.result.entityId).isSome) ∧
      ∀ c : Condition, c.Askable → ∃ rows,
        b.store.rows { entityType := t.id, condition := d.bound t column c, columns := [column] } =
          .ok rows ∧ rows.filterMap (resultOf? column) = Candidate.meeting pool c := by
  let rows := b.store.candidates t.id [⟨column, place⟩]
  let leaf (x : Entity × KeyMap Json) (l : Comparison) : ComparisonOf Target :=
    { l with column := b.targetIn t (l.column.bind column t.keys.id) }
  have hrows : ∀ x ∈ rows, x.1 ∈ (b.store.entitiesOf t.id).values ∧
      ∃ v ∈ b.store.valuesAt x.1 place, x.2 = KeyMap.empty.insert column v := by
    intro x hx
    simp only [rows, Store.candidates_single, List.mem_flatMap, List.mem_map] at hx
    obtain ⟨e, he, v, hv, rfl⟩ := hx
    exact ⟨he, v, hv, rfl⟩
  obtain ⟨pool, hstored, hpool⟩ := Candidate.exists_of_rows (fun x => x.1)
    (fun x => ((d.bound t column (.and [])).map (b.targetIn t)).meets (b.store.leafTruth x.1 x.2))
    (fun x l => b.store.leafTruth x.1 x.2 (leaf x l))
    (fun x => resultOf? column ⟨x.1.id, x.2⟩) rows
    (by
      intro x _ r hr
      obtain ⟨text, -, rfl⟩ := Option.map_eq_some_iff.1 hr
      rfl)
    (by
      rintro ⟨e, binding⟩ hx operator value
      obtain ⟨he, v, hv, rfl⟩ := hrows _ hx
      exact leafTruth_entityId built ht hplace he hv operator value)
  refine ⟨pool, fun y hy => ?_, fun c hc => ?_⟩
  · obtain ⟨x, hx, hid⟩ := hstored y hy
    rw [hid, built.consistent.load_of_mem (hrows x hx).1]
    rfl
  · have hknown : (b.store.schema.entityType? t.id).isSome := Option.isSome_iff_exists.2 ⟨t, ht⟩
    have hcolumns : b.store.targets t.id [column] = .ok [⟨column, place⟩] := by
      have htarget : b.store.target t.id column = .ok ⟨column, place⟩ := Store.targetOf_named hplace
      simp only [Store.targets, htarget]
      rfl
    refine ⟨_, Store.rows_eq rfl (Searched.firstPlaceholder?_bound c d t column) hknown
      (targetOf_of_mem_bound ht hplace hc) hcolumns (Searched.takes_bound hc d t column), ?_⟩
    rw [← hpool c, List.filterMap_map]
    simp only [meets_bound_map (d := d) (b.targetIn t) _ c]
    rfl

end Rows

theorem exists_findIn (d : ProviderDefinition) (built : b.store.Built) (column : String) :
    ∃ pool, b.PicksFrom d.entityType pool (d.findIn column) := by
  have hstart (c : Condition) : (d.findIn column c).on b = _ := Step.on_bind_ok (Step.on_get b)
  cases ht : b.schema.entityType? d.entityType with
  | none =>
    simp only [ht] at hstart
    exact ⟨[], .of_error fun c => ⟨_, by rw [hstart, Step.on_throw], rfl⟩⟩
  | some t =>
    have hid : t.id = d.entityType := built.consistent.entityType_id ht
    cases hlocate : b.locate t.id column with
    | error e =>
      rcases Backend.locate_eq_error hlocate with rfl | hdefect
      · simp only [ht, hlocate] at hstart
        exact ⟨[], .of_nil fun c => by rw [hstart, Step.on_pure]⟩
      · refine ⟨[], .of_error fun c => ⟨.storage e, ?_, hdefect⟩⟩
        simp only [ht, hlocate] at hstart
        rw [hstart]
        cases e <;> first | rfl | cases hdefect
    | ok place =>
      simp only [ht, hlocate] at hstart
      obtain ⟨pool, hstored, hpool⟩ := exists_picked (t := t) built (by rw [hid, ht])
        (Backend.locate_of_eq_ok hlocate) d
      rw [hid] at hstored
      cases hallow : b.outages.allow .execute with
      | error e =>
        refine ⟨[], .of_error fun c => ⟨.storage e, ?_, Backend.allow_eq_error hallow⟩⟩
        have hrefused := Backend.execute_eq
          { entityType := t.id, condition := d.bound t column c, columns := [column] } b
        simp only [hallow] at hrefused
        rw [hstart, Step.on_bind_error hrefused]
      | ok _ =>
        refine ⟨pool, hstored, fun c hc => .inl ?_⟩
        obtain ⟨rows, hrows, hmeeting⟩ := hpool c hc
        have hanswer := Backend.execute_eq
          { entityType := t.id, condition := d.bound t column c, columns := [column] } b
        simp only [hallow, hrows] at hanswer
        rw [hstart, Step.on_bind_ok hanswer, Step.on_pure, hmeeting]

end ProviderDefinition

theorem Registry.exists_pool {b : Backend} (built : b.store.Built) {plugin : String}
    {settings : ProviderConfiguration} {p : Provider}
    (hp : Registry.builtin.create b.schema plugin settings = .ok p) :
    ∃ pool, b.PicksFrom p.definition.entityType pool p.find := by
  obtain ⟨base, hbase, d, -, -, rfl⟩ := Registry.create_eq_ok hp
  rcases Registry.mem_builtin.1 hbase with rfl | rfl | rfl
  · exact d.exists_findIn built _
  · exact d.exists_findIn built _
  · have hfind (c : Condition) : (ReferenceProvider.find d c).on b = _ :=
      Step.on_bind_ok (Step.on_get b)
    cases hcolumn : ReferenceProvider.column? b d with
    | none =>
      simp only [hcolumn] at hfind
      exact ⟨[], .of_nil fun c => congrArg Prod.fst (hfind c)⟩
    | some column =>
      simp only [hcolumn] at hfind
      obtain ⟨pool, hpool⟩ := d.exists_findIn built column
      exact ⟨pool, hpool.congr hfind⟩

end SynonymLookup
