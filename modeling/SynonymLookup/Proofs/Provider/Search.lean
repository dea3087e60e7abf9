import SynonymLookup.Proofs.Backend
import SynonymLookup.Proofs.Query.Rows
import SynonymLookup.Proofs.Store.Consistent
import SynonymLookup.Provider.Field

/-! The search of a provider in a column that leads somewhere: its answer is the synonyms of the
covered entities that meet the condition, each tested on its own. -/

namespace SynonymLookup

/-- The condition has no columns but the placeholders, and its leaves are given what their operators
compare with. -/
structure Condition.Askable (c : Condition) : Prop where
  placeholders : ∀ l ∈ c.leaves, l.column.isPlaceholder = true
  takes : ∀ l ∈ c.leaves, l.operator.Takes l.value

def Condition.leafMeets (e : Entity) (synonym : String) (l : Comparison) : Bool :=
  match l.column with
  | .synonym => Evaluation.accepts l.operator [.string synonym] l.value
  | .entityId => Evaluation.accepts l.operator [e.id.toJson] l.value
  | .named _ => false

def Condition.meetsFor (c : Condition) (e : Entity) (synonym : String) : Bool :=
  c.meets (Condition.leafMeets e synonym)

theorem Condition.askable_onSynonym (name : String) :
    (Condition.onSynonym .equal (.string name)).Askable := by
  constructor <;> simp [Condition.onSynonym, Condition.compare, Column.isPlaceholder,
    Operator.Takes, Operator.takesList]

theorem Condition.meetsFor_onSynonym {name : String} (h : name ≠ "") (e : Entity) (text : String) :
    (Condition.onSynonym .equal (.string name)).meetsFor e text =
      Text.sameIgnoringCase text name := by
  simp only [Condition.meetsFor, Condition.onSynonym, Condition.compare, ConditionOf.meets_leaf]
  exact Evaluation.accepts_equal h text

namespace ProviderDefinition

/-- The entity is of the definition's bundle, in any case of letters; without bundles all are. -/
def covers (d : ProviderDefinition) (t : EntityType) (e : Entity) : Bool :=
  t.keys.bundle.isNone || Text.sameIgnoringCase e.bundle d.bundle

/-- The synonyms of stored entities that meet a condition, by entity and in their order. -/
def matching (d : ProviderDefinition) (t : EntityType) (s : Store) (synonyms : Entity → List String)
    (c : Condition) : List SynonymResult :=
  ((s.entitiesOf d.entityType).values.filter (d.covers t)).flatMap fun e =>
    ((synonyms e).filter (c.meetsFor e)).map fun text => ⟨e.id, text⟩

theorem matching_eq (d : ProviderDefinition) (t : EntityType) (s : Store)
    (synonyms : Entity → List String) (c : Condition) :
    d.matching t s synonyms c = (s.entitiesOf d.entityType).values.flatMap fun e =>
      if d.covers t e then ((synonyms e).filter (c.meetsFor e)).map fun text => ⟨e.id, text⟩
      else [] := by
  unfold matching
  induction (s.entitiesOf d.entityType).values with
  | nil => rfl
  | cons e rest ih =>
    by_cases he : d.covers t e = true
    · rw [List.filter_cons_of_pos he, List.flatMap_cons, List.flatMap_cons, ih, if_pos he]
    · rw [List.filter_cons_of_neg he, List.flatMap_cons, ih, if_neg he, List.nil_append]

theorem mem_matching_iff {d : ProviderDefinition} {t : EntityType} {s : Store} (h : s.Consistent)
    {synonyms : Entity → List String} {c : Condition} {id : EntityId} {text : String} :
    ⟨id, text⟩ ∈ d.matching t s synonyms c ↔ ∃ e, s.load d.entityType id = some e ∧
      d.covers t e = true ∧ text ∈ synonyms e ∧ c.meetsFor e text = true := by
  unfold matching
  simp only [List.mem_flatMap, List.mem_filter, List.mem_map, SynonymResult.mk.injEq]
  constructor
  · rintro ⟨e, ⟨he, hcovers⟩, text', ⟨htext, hmeets⟩, rfl, rfl⟩
    obtain ⟨key, hkey⟩ := KeyMap.mem_values_iff.1 he
    refine ⟨e, ?_, hcovers, htext, hmeets⟩
    unfold Store.load
    rw [(h.entity_keys hkey).2, hkey]
  · rintro ⟨e, he, hcovers, htext, hmeets⟩
    exact ⟨e, ⟨KeyMap.mem_values_iff.2 ⟨_, he⟩, hcovers⟩, text, ⟨htext, hmeets⟩,
      (h.id_of_load he).2, rfl⟩

theorem mem_leaves_bound {d : ProviderDefinition} {t : EntityType} {column : String} {c : Condition}
    {l : Comparison} (h : l ∈ (d.bound t column c).leaves) :
    (∃ asked ∈ c.leaves, l = { asked with column := asked.column.bind column t.keys.id }) ∨
      ∃ key, t.keys.bundle = some key ∧ l = ⟨.named key, .equal, .string d.bundle⟩ := by
  have hresolved : ∀ l ∈ (c.resolve column t.keys.id).leaves,
      ∃ asked ∈ c.leaves, l = { asked with column := asked.column.bind column t.keys.id } := by
    intro l hl
    rw [Condition.resolve, ConditionOf.leaves_map, List.mem_map] at hl
    obtain ⟨asked, hasked, rfl⟩ := hl
    exact ⟨asked, hasked, rfl⟩
  unfold bound at h
  cases hkey : t.keys.bundle with
  | none =>
    rw [hkey] at h
    exact .inl (hresolved l h)
  | some key =>
    rw [hkey] at h
    simp only [ConditionOf.leaves_and, List.flatMap_cons, List.flatMap_nil, List.append_nil,
      List.mem_append] at h
    rcases h with h | h
    · simp only [Condition.onColumn, Condition.compare, ConditionOf.leaves_leaf,
        List.mem_singleton] at h
      exact .inr ⟨key, rfl, h⟩
    · exact .inl (hresolved l h)

def located (selected : Target) : Column → Target
  | .named name => if name = selected.name then selected else ⟨name, .key name⟩
  | _ => selected

end ProviderDefinition

namespace EntityType

theorem isKey_id (t : EntityType) : t.isKey t.keys.id = true := by simp [isKey]

theorem isKey_bundle {t : EntityType} {key : String} (h : t.keys.bundle = some key) :
    t.isKey key = true := by simp [isKey, h]

theorem isKey_of_point {t : EntityType} (h : ∀ key, t.isKey key = true → '.' ∉ key.toList)
    {column : String} (hpoint : '.' ∈ column.toList) : t.isKey column = false := by
  by_contra hkey
  exact h column (by simpa using hkey) hpoint

end EntityType

namespace Store

theorem targetOf_key {s : Store} {entityType : String} {t : EntityType}
    (ht : s.schema.entityType? entityType = some t) {key : String} (hkey : t.isKey key = true) :
    s.targetOf entityType (.named key) = .ok ⟨key, .key key⟩ := by
  unfold targetOf target Schema.locate
  simp only [ht, hkey]
  rfl

theorem targetOf_named {s : Store} {entityType name : String} {l : Location}
    (h : s.schema.locate entityType name = .ok l) :
    s.targetOf entityType (.named name) = .ok ⟨name, l⟩ := by
  unfold targetOf target
  simp only [h]
  rfl

theorem valuesAt_id {s : Store} {e : Entity} {t : EntityType}
    (ht : s.schema.entityType? e.entityType = some t) :
    s.valuesAt e (.key t.keys.id) = [e.id.toJson] := by
  simp [valuesAt, ht, EntityType.keyValue]

theorem valuesAt_bundle {s : Store} {e : Entity} {t : EntityType} {key : String}
    (ht : s.schema.entityType? e.entityType = some t) (hkey : t.keys.bundle = some key)
    (hid : key ≠ t.keys.id) : s.valuesAt e (.key key) = [.string e.bundle] := by
  simp [valuesAt, ht, EntityType.keyValue, hkey, hid]

end Store

/-- A column that a provider searches: one with a place that is neither the id nor
the bundle key. -/
structure Searched (b : Backend) (d : ProviderDefinition) (t : EntityType) (selected : Target) :
    Prop where
  built : b.store.Built
  known : b.schema.entityType? d.entityType = some t
  place : b.schema.locate d.entityType selected.name = .ok selected.location
  id_ne : t.keys.id ≠ selected.name
  bundle_ne : ∀ key, t.keys.bundle = some key → key ≠ selected.name ∧ key ≠ t.keys.id
  named : d.bundle ≠ ""

namespace Searched

variable {b : Backend} {d : ProviderDefinition} {t : EntityType} {selected : Target}

theorem type_id (h : Searched b d t selected) : t.id = d.entityType :=
  h.built.consistent.entityType_id h.known

theorem of_fieldLocation? (built : b.store.Built)
    (known : b.schema.entityType? d.entityType = some t) (hkey : t.isKey selected.name = false)
    (hplace : b.schema.fieldLocation? d.entityType selected.name = some selected.location)
    (hdiffer : t.keys.bundle ≠ some t.keys.id) (named : d.bundle ≠ "") :
    Searched b d t selected where
  built := built
  known := known
  place := by
    unfold Schema.locate
    simp only [known, hkey, hplace]
    rfl
  id_ne := by
    intro h
    rw [← h, t.isKey_id] at hkey
    cases hkey
  bundle_ne := by
    intro key hbundle
    refine ⟨fun h => ?_, fun h => hdiffer (h ▸ hbundle)⟩
    rw [← h, EntityType.isKey_bundle hbundle] at hkey
    cases hkey
  named := named

theorem targetOf_bind (h : Searched b d t selected) {c : Column} (hc : c.isPlaceholder = true) :
    b.store.targetOf d.entityType (c.bind selected.name t.keys.id) =
      .ok (ProviderDefinition.located selected (c.bind selected.name t.keys.id)) := by
  cases c with
  | synonym =>
    have hplace := Store.targetOf_named (s := b.store) h.place
    simpa [Column.bind, ProviderDefinition.located] using hplace
  | entityId =>
    have hkey := Store.targetOf_key (s := b.store) h.known t.isKey_id
    simpa [Column.bind, ProviderDefinition.located, h.id_ne] using hkey
  | named name => cases hc

theorem targetOf_bound (h : Searched b d t selected) {c : Condition} (hc : c.Askable) :
    ∀ column ∈ (d.bound t selected.name c).columns,
      b.store.targetOf d.entityType column = .ok (ProviderDefinition.located selected column) := by
  intro column hcolumn
  rw [ConditionOf.columns_eq_leaves, List.mem_map] at hcolumn
  obtain ⟨l, hl, rfl⟩ := hcolumn
  rcases ProviderDefinition.mem_leaves_bound hl with ⟨asked, hasked, rfl⟩ | ⟨key, hkey, rfl⟩
  · exact h.targetOf_bind (hc.placeholders asked hasked)
  · have htarget := Store.targetOf_key (s := b.store) h.known (EntityType.isKey_bundle hkey)
    simpa [ProviderDefinition.located, (h.bundle_ne key hkey).1] using htarget

theorem takes_bound {c : Condition} (hc : c.Askable) (d : ProviderDefinition) (t : EntityType)
    (column : String) : ∀ l ∈ (d.bound t column c).leaves, l.operator.Takes l.value := by
  intro l hl
  rcases ProviderDefinition.mem_leaves_bound hl with ⟨asked, hasked, rfl⟩ | ⟨key, -, rfl⟩
  · exact hc.takes asked hasked
  · exact ⟨fun hlist => (by cases hlist), fun hlike => (by simp at hlike)⟩

theorem leafTruth_bind (h : Searched b d t selected) {e : Entity} (he : e.entityType = d.entityType)
    {v : Json} {text : String} (hv : v.text? = some text) {l : Comparison}
    (hl : l.column.isPlaceholder = true) :
    b.store.leafTruth e (KeyMap.empty.insert selected.name v)
      { l with
        column := ProviderDefinition.located selected (l.column.bind selected.name t.keys.id) } =
        Condition.leafMeets e text l := by
  have hknown : b.store.schema.entityType? e.entityType = some t := by
    rw [he]
    exact h.known
  obtain ⟨column, operator, value⟩ := l
  cases column with
  | synonym =>
    have hlocated : ProviderDefinition.located selected (.named selected.name) = selected := by
      simp [ProviderDefinition.located]
    unfold Store.leafTruth Condition.leafMeets
    dsimp only [Column.bind]
    rw [hlocated, Store.valuesSeen_selected, Evaluation.accepts_of_text hv]
  | entityId =>
    have hlocated : ProviderDefinition.located selected (.named t.keys.id) =
        ⟨t.keys.id, .key t.keys.id⟩ := by simp [ProviderDefinition.located, h.id_ne]
    unfold Store.leafTruth Condition.leafMeets
    dsimp only [Column.bind]
    rw [hlocated, Store.valuesSeen_other _ _ _ h.id_ne.symm, Store.valuesAt_id hknown]
  | named name => cases hl

/-- A row meets the bound condition if its entity is covered and its text meets the condition. -/
theorem meets_bound (h : Searched b d t selected) {c : Condition} (hc : c.Askable) {e : Entity}
    (he : e.entityType = d.entityType) {v : Json} {text : String} (hv : v.text? = some text) :
    ((d.bound t selected.name c).map (ProviderDefinition.located selected)).meets
      (b.store.leafTruth e (KeyMap.empty.insert selected.name v)) =
        (d.covers t e && c.meetsFor e text) := by
  have hknown : b.store.schema.entityType? e.entityType = some t := by
    rw [he]
    exact h.known
  have hresolved : ((c.resolve selected.name t.keys.id).map
      (ProviderDefinition.located selected)).meets
        (b.store.leafTruth e (KeyMap.empty.insert selected.name v)) = c.meetsFor e text := by
    rw [Condition.resolve, ConditionOf.meets_map, ConditionOf.meets_map]
    exact ConditionOf.meets_congr fun l hl => h.leafTruth_bind he hv (hc.placeholders l hl)
  unfold ProviderDefinition.bound ProviderDefinition.covers
  cases hkey : t.keys.bundle with
  | none => simpa using hresolved
  | some key =>
    obtain ⟨hselected, hid⟩ := h.bundle_ne key hkey
    have hlocated : ProviderDefinition.located selected (.named key) = ⟨key, .key key⟩ := by
      simp [ProviderDefinition.located, hselected]
    have hbundle : b.store.leafTruth e (KeyMap.empty.insert selected.name v)
        ⟨⟨key, .key key⟩, .equal, .string d.bundle⟩ = Text.sameIgnoringCase e.bundle d.bundle := by
      unfold Store.leafTruth
      rw [Store.valuesSeen_other _ _ _ hselected.symm, Store.valuesAt_bundle hknown hkey hid]
      exact Evaluation.accepts_equal h.named e.bundle
    simp [Condition.onColumn, Condition.compare, hresolved, hlocated, hbundle]

theorem results_of_entity (h : Searched b d t selected) {c : Condition}
    (hc : c.Askable) {e : Entity} (he : e.entityType = d.entityType) :
    ((((b.store.valuesAt e selected.location).map fun v =>
        (e, KeyMap.empty.insert selected.name v)).filter fun x =>
          ((d.bound t selected.name c).map (ProviderDefinition.located selected)).meets
            (b.store.leafTruth x.1 x.2)).map fun x => (⟨x.1.id, x.2⟩ : Row)).filterMap
              (ProviderDefinition.resultOf? selected.name) =
      if d.covers t e then
        ((((b.store.valuesAt e selected.location).filterMap Json.text?).filter (c.meetsFor e)).map
          fun text => ⟨e.id, text⟩)
      else [] := by
  have hresult (v : Json) : ProviderDefinition.resultOf? selected.name
      ⟨e.id, KeyMap.empty.insert selected.name v⟩ = v.text?.map fun text => ⟨e.id, text⟩ := by
    simp [ProviderDefinition.resultOf?]
  induction b.store.valuesAt e selected.location with
  | nil => simp
  | cons v rest ih =>
    rw [List.map_cons, List.filterMap_cons]
    cases hv : v.text? with
    | none =>
      rw [← ih, List.filter_cons]
      split
      · rw [List.map_cons, List.filterMap_cons, hresult, hv]
        rfl
      · rfl
    | some text =>
      rw [List.filter_cons, h.meets_bound hc he hv]
      by_cases hcovers : d.covers t e = true
      · rw [if_pos hcovers] at ih ⊢
        by_cases hmeets : c.meetsFor e text = true
        · simp [hcovers, hmeets, hresult, hv, ih]
        · simp [hmeets, ih]
      · rw [if_neg hcovers] at ih ⊢
        simp [hcovers, ih]

theorem firstPlaceholder?_bound (c : Condition) (d : ProviderDefinition) (t : EntityType)
    (column : String) : (d.bound t column c).firstPlaceholder? = none := by
  unfold Condition.firstPlaceholder?
  rw [List.find?_eq_none]
  intro x hx
  rw [ConditionOf.columns_eq_leaves, List.mem_map] at hx
  obtain ⟨l, hl, rfl⟩ := hx
  rcases ProviderDefinition.mem_leaves_bound hl with ⟨asked, -, rfl⟩ | ⟨key, -, rfl⟩
  · simp
  · simp [Column.isPlaceholder]

theorem targets_selected (h : Searched b d t selected) :
    b.store.targets d.entityType [selected.name] = .ok [selected] := by
  have hplace : b.store.schema.locate d.entityType selected.name = .ok selected.location := h.place
  unfold Store.targets Store.target
  simp only [hplace]
  rfl

/-- The search of a column answers with the texts in it, of the covered entities and as far as they
meet the condition. -/
theorem findIn_on (h : Searched b d t selected) (hresolve : b.Up .resolve)
    (hexecute : b.Up .execute) {c : Condition} (hc : c.Askable) :
    (d.findIn selected.name c).on b = (.ok (d.matching t b.store
      (fun e => (b.store.valuesAt e selected.location).filterMap Json.text?) c), b.counted) := by
  let q : Query :=
    { entityType := d.entityType
      condition := d.bound t selected.name c
      columns := [selected.name] }
  have hknown : (b.store.schema.entityType? q.entityType).isSome := by
    show (b.schema.entityType? d.entityType).isSome
    rw [h.known]
    rfl
  have hrows := Store.rows_eq (q := q) rfl (firstPlaceholder?_bound c d t selected.name) hknown
    (h.targetOf_bound hc) h.targets_selected (takes_bound hc d t selected.name)
  have hplace : b.locate t.id selected.name = .ok selected.location := by
    rw [Backend.locate_of_up hresolve, h.type_id, h.place]
  unfold ProviderDefinition.findIn
  rw [Step.on_bind_ok (Step.on_get b)]
  simp only [h.known, hplace]
  rw [h.type_id, Step.on_bind_ok (Backend.execute_on hexecute hrows), Step.on_pure]
  congr 2
  rw [Store.candidates_single, List.filter_flatMap, List.map_flatMap, List.filterMap_flatMap]
  rw [ProviderDefinition.matching_eq]
  apply List.flatMap_congr
  intro e he
  obtain ⟨id, hid⟩ := KeyMap.mem_values_iff.1 he
  exact h.results_of_entity hc (h.built.consistent.entity_keys hid).1

end Searched

end SynonymLookup
