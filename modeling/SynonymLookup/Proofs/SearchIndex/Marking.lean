import SynonymLookup.Proofs.SearchIndex.Fragment

/-! Marking for reindexing. Every host that refers to one of the ids is flagged, through each field
that can lead to their type; the flags that were set before stay, also where marking fails. -/

namespace SynonymLookup

structure Schema.WithoutPoints (s : Schema) : Prop where
  field : ∀ {entityType bundle f}, f ∈ s.fieldsOf entityType bundle → '.' ∉ f.name.toList
  key : ∀ {id t key}, s.entityType? id = some t → t.isKey key = true → '.' ∉ key.toList

theorem Schema.Plain.withoutPoints {s : Schema} (plain : s.Plain) : s.WithoutPoints :=
  ⟨fun hf => (plain.field hf).2, plain.key⟩

def Entity.refersToAny (field : String) (ids : List EntityId) (e : Entity) : Bool :=
  (e.referencedIds field).any fun id => ids.any fun other =>
    Text.sameIgnoringCase id.text other.text

theorem Entity.refersToAny_of_mem {e : Entity} {field : String} {ids : List EntityId}
    {id : EntityId} (href : id ∈ e.referencedIds field)
    (hid : id ∈ ids) : e.refersToAny field ids = true := by
  have hsame : Text.sameIgnoringCase id.text id.text = true := Text.sameIgnoringCase_iff.2 rfl
  exact List.any_eq_true.2 ⟨id, href, List.any_eq_true.2 ⟨id, hid, hsame⟩⟩

namespace Store

theorem mem_reindexQueue_iff {s : Store} {entityType : String} {id : EntityId} :
    id ∈ s.reindexQueue entityType ↔ id.text ∈ ((s.reindex.get? entityType).getD .empty).keys := by
  rw [reindexQueue, List.mem_map]
  constructor
  · rintro ⟨text, htext, rfl⟩
    exact htext
  · exact fun h => ⟨id.text, h, rfl⟩

theorem mem_reindexQueue_mark {s : Store} {entityType entityType' : String} {ids : List EntityId}
    {id : EntityId} : id ∈ (s.mark entityType ids).reindexQueue entityType' ↔
      id ∈ s.reindexQueue entityType' ∨ (entityType = entityType' ∧ id ∈ ids) := by
  have hfold (m : KeyMap Unit) : id.text ∈ (ids.foldl (fun m id => m.insert id.text ()) m).keys ↔
      id.text ∈ m.keys ∨ id ∈ ids := by
    induction ids generalizing m with
    | nil => simp
    | cons first rest ih =>
      have hid : id.text = first.text ↔ id = first :=
        ⟨fun h => by cases id; cases first; exact congrArg EntityId.mk h, fun h => by rw [h]⟩
      rw [List.foldl_cons, ih, KeyMap.mem_keys_insert_iff, hid, List.mem_cons]
      exact ⟨by rintro ((h | h) | h) <;> simp [h], by rintro (h | h | h) <;> simp [h]⟩
  rw [mem_reindexQueue_iff, mem_reindexQueue_iff, mark, KeyMap.update]
  dsimp only
  rw [KeyMap.get?_insert]
  by_cases htype : entityType = entityType'
  · subst htype
    rw [if_pos rfl, Option.getD_some, hfold]
    simp
  · simp [htype]

def referring (host field : String) (targets : Json) : Query where
  entityType := host
  condition := Condition.onColumn (field ++ "." ++ targetIdProperty) .isIn targets

theorem leafTruth_targetId (s : Store) (e : Entity) (name field : String) (ids : List EntityId) :
    s.leafTruth e .empty ⟨⟨name, .property field targetIdProperty⟩, .isIn,
      .array (ids.map EntityId.toJson)⟩ = e.refersToAny field ids := by
  have htakes : Operator.isIn.Takes (.array (ids.map EntityId.toJson)) := ⟨fun _ => rfl, by simp⟩
  have hverdict : s.leafTruth e .empty ⟨⟨name, .property field targetIdProperty⟩, .isIn,
      .array (ids.map EntityId.toJson)⟩ = Test.isIn.admitsAny (.array (ids.map EntityId.toJson))
        (s.valuesAt e (.property field targetIdProperty)) := by
    rw [leafTruth, Evaluation.accepts, Evaluation.evaluate_of_takes htakes]
    rfl
  have hany : Test.isIn.admitsAny (.array (ids.map EntityId.toJson))
      (s.valuesAt e (.property field targetIdProperty)) =
        (e.propertyTexts field targetIdProperty).any
          (Test.isIn.admits (.array (ids.map EntityId.toJson))) := by
    rw [← s.texts_at_property, List.any_filterMap, Test.admitsAny]
    refine congrArg (List.any _) (funext fun v => ?_)
    cases v.text? <;> rfl
  have hadmits (text : String) (htext : text ∈ e.propertyTexts field targetIdProperty) :
      Test.isIn.admits (.array (ids.map EntityId.toJson)) text =
        ids.any fun other => Text.sameIgnoringCase text other.text := by
    have hne := ne_empty_of_mem_propertyTexts htext
    simp only [Test.admits, Json.items?, Option.getD_some, List.any_map]
    exact congrArg (List.any _) (funext fun other => Evaluation.equalsText_string hne other.text)
  rw [hverdict, hany, Entity.refersToAny, Entity.referencedIds, List.any_map, Bool.eq_iff_iff,
    List.any_eq_true, List.any_eq_true]
  refine exists_congr fun text => and_congr_right fun htext => ?_
  rw [hadmits text htext]
  rfl

theorem rows_referring {s : Store} {t : EntityType} {host field : String}
    (ht : s.schema.entityType? host = some t) (keys : ∀ key, t.isKey key = true → '.' ∉ key.toList)
    (hfield : '.' ∉ field.toList) (hknown : (s.schema.anyField? host field).isSome)
    (ids : List EntityId) :
    s.rows (referring host field (.array (ids.map EntityId.toJson))) =
      .ok (((s.entitiesOf host).values.filter (Entity.refersToAny field ids)).map fun e =>
        ⟨e.id, .empty⟩) := by
  let column := field ++ "." ++ targetIdProperty
  have hkey : t.isKey column = false := t.isKey_of_point keys (by simp [column])
  have hproperty : Text.stripHead? "entity.".toList targetIdProperty.toList = none := by decide
  have hlocation := Schema.fieldLocation?_property hfield hknown hproperty
  have hlocate : s.schema.locate host column = .ok (.property field targetIdProperty) := by
    simp only [Schema.locate, ht, hkey, hlocation, column]
    rfl
  have hplace : ∀ c ∈ (referring host field (.array (ids.map EntityId.toJson))).condition.columns,
      s.targetOf host c = .ok ⟨column, .property field targetIdProperty⟩ := by
    intro c hc
    simp only [referring, Condition.onColumn, Condition.compare, ConditionOf.columns_leaf,
      List.mem_singleton] at hc
    rw [hc]
    exact targetOf_named hlocate
  have htakes : ∀ l ∈ (referring host field (.array (ids.map EntityId.toJson))).condition.leaves,
      l.operator.Takes l.value := by
    simp [referring, Condition.onColumn, Condition.compare, Operator.Takes, Operator.takesList,
      Json.items?]
  rw [rows_eq (q := referring host field (.array (ids.map EntityId.toJson))) rfl rfl
    (by rw [referring, ht]; rfl) hplace rfl htakes]
  rw [candidates_nil, List.filter_map, List.map_map]
  refine congrArg Except.ok (congrArg (List.map _) (List.filter_congr fun e _ => ?_))
  have hleaf := s.leafTruth_targetId e column field ids
  simpa only [Function.comp_apply, referring, Condition.onColumn, Condition.compare,
    ConditionOf.map_leaf, ConditionOf.meets_leaf] using hleaf

end Store

namespace Backend

/-- The second backend is the first with more flags, after more queries. -/
structure Marked (b b' : Backend) : Prop where
  schema : b'.store.schema = b.store.schema
  entities : b'.store.entities = b.store.entities
  outages : b'.outages = b.outages
  flags : ∀ {entityType id}, id ∈ b.store.reindexQueue entityType →
    id ∈ b'.store.reindexQueue entityType

variable {b : Backend}

theorem Marked.refl : b.Marked b := ⟨rfl, rfl, rfl, id⟩

theorem Marked.trans {b₁ b₂ : Backend} (h₁ : b.Marked b₁) (h₂ : b₁.Marked b₂) : b.Marked b₂ :=
  ⟨h₂.schema.trans h₁.schema, h₂.entities.trans h₁.entities, h₂.outages.trans h₁.outages,
    fun h => h₂.flags (h₁.flags h)⟩

theorem Marked.counted {b' : Backend} (h : b.Marked b') : b.Marked b'.counted :=
  ⟨h.schema, h.entities, h.outages, h.flags⟩

theorem Marked.mark {b' : Backend} (h : b.Marked b') (entityType : String) (ids : List EntityId) :
    b.Marked { b' with store := b'.store.mark entityType ids } :=
  ⟨h.schema, h.entities, h.outages, fun hid => Store.mem_reindexQueue_mark.2 (.inl (h.flags hid))⟩

theorem mark_on (entityType : String) (ids : List EntityId) (b : Backend) :
    (∃ e, (Backend.mark entityType ids).on b = (.error e, b)) ∨
      (Backend.mark entityType ids).on b =
        (.ok (), { b with store := b.store.mark entityType ids }) := by
  have hread : (Step.read fun b : Backend => b.outages.allow .reindex).on b =
      ((b.outages.allow .reindex).mapError .storage, b) := Step.on_read _ b
  unfold Backend.mark
  cases hallow : b.outages.allow .reindex with
  | error e =>
    rw [hallow] at hread
    exact .inl ⟨_, Step.on_bind_error hread⟩
  | ok _ =>
    rw [hallow] at hread
    rw [Step.on_bind_ok hread]
    exact .inr rfl

end Backend

namespace SearchIndex

open Service

variable {s : Service} {targets : Json}

/-- The hosts that refer to the targets in a field are flagged, and the rest is done after that; or
it ends here, with all flags as they were. -/
theorem markHosts_cons_on (targets : Json) (host field : String) (rest : List (String × String))
    (s : Service) : (∃ e b, s.backend.Marked b ∧
      (markHosts targets ((host, field) :: rest)).on s = (.error e, { s with backend := b })) ∨
    ∃ rows b, s.store.rows (Store.referring host field targets) = .ok rows ∧ s.backend.Marked b ∧
      (∀ {entityType id}, id ∈ b.store.reindexQueue entityType ↔
        id ∈ s.store.reindexQueue entityType ∨ (host = entityType ∧ id ∈ rows.map (·.entityId))) ∧
      (markHosts targets ((host, field) :: rest)).on s =
        (do return rows.length + (← markHosts targets rest) : Action Nat).on
          { s with backend := b } := by
  rcases Backend.execute_cases (Store.referring host field targets) s.backend
    with ⟨e, hrefused⟩ | hanswered
  · exact .inl ⟨e, s.backend, .refl, Step.on_bind_error (Lookup.onBackend_on hrefused)⟩
  have hcounted : s.backend.Marked s.backend.counted := Backend.Marked.refl.counted
  cases hrows : s.backend.store.rows (Store.referring host field targets) with
  | error e =>
    rw [hrows] at hanswered
    exact .inl ⟨.storage e, s.backend.counted, hcounted,
      Step.on_bind_error (Lookup.onBackend_on hanswered)⟩
  | ok rows =>
    rw [hrows] at hanswered
    have hstart : (markHosts targets ((host, field) :: rest)).on s = (do
        if !rows.isEmpty then onBackend (Backend.mark host (rows.map (·.entityId)))
        return rows.length + (← markHosts targets rest) : Action Nat).on
          { s with backend := s.backend.counted } :=
      Step.on_bind_ok (Lookup.onBackend_on hanswered)
    rw [hstart]
    by_cases hnone : rows = []
    · subst hnone
      have hqueue (entityType : String) :
          s.backend.counted.store.reindexQueue entityType = s.store.reindexQueue entityType := rfl
      exact .inr ⟨[], s.backend.counted, hrows, hcounted, by simp [hqueue], rfl⟩
    · have hsome : (!rows.isEmpty) = true := by simpa using hnone
      simp only [hsome, if_true]
      rcases Backend.mark_on host (rows.map (·.entityId)) s.backend.counted with ⟨e, hmark⟩ | hmark
      · exact .inl ⟨e, s.backend.counted, hcounted, Step.on_bind_error (Lookup.onBackend_on hmark)⟩
      · exact .inr ⟨rows, _, hrows, hcounted.mark _ _, Store.mem_reindexQueue_mark,
          Step.on_bind_ok (Lookup.onBackend_on hmark)⟩

theorem on_add (k : Nat) (step : Action Nat) (s : Service) :
    (do return k + (← step) : Action Nat).on s = ((step.on s).1.map (k + ·), (step.on s).2) := by
  rw [Step.on_bind]
  rcases step.on s with ⟨_ | _, t⟩ <;> rfl

/-- No flag is taken back, whether marking succeeds or fails. -/
theorem marked_markHosts (targets : Json) (list : List (String × String)) (s : Service) :
    s.backend.Marked ((markHosts targets list).on s).2.backend := by
  induction list generalizing s with
  | nil => exact .refl
  | cons first rest ih =>
    obtain ⟨host, field⟩ := first
    rcases markHosts_cons_on targets host field rest s with ⟨e, b, hb, h⟩ | ⟨rows, b, -, hb, -, h⟩
    · rw [h]
      exact hb
    · rw [h, on_add]
      exact hb.trans (ih { s with backend := b })

/-- Marking that succeeds has found hosts in the first field and has gone on with the other fields,
for which every query has the rows that it had before. -/
theorem of_markHosts_cons {host field : String} {rest : List (String × String)}
    {s s' : Service} {n : Nat}
    (h : (markHosts targets ((host, field) :: rest)).on s = (.ok n, s')) :
    ∃ rows b m, s.store.rows (Store.referring host field targets) = .ok rows ∧
      (∀ q, b.store.rows q = s.store.rows q) ∧
      (∀ {entityType id}, id ∈ b.store.reindexQueue entityType ↔
        id ∈ s.store.reindexQueue entityType ∨ (host = entityType ∧ id ∈ rows.map (·.entityId))) ∧
      (markHosts targets rest).on { s with backend := b } = (.ok m, s') ∧ n = rows.length + m := by
  rcases markHosts_cons_on targets host field rest s with
    ⟨e, b, -, hon⟩ | ⟨rows, b, hrows, hb, hqueue, hon⟩
  · rw [hon] at h
    cases h
  · rw [hon, on_add] at h
    rcases hrest : (markHosts targets rest).on { s with backend := b } with ⟨e | m, t⟩
    · rw [hrest] at h
      cases h
    · rw [hrest] at h
      cases h
      exact ⟨rows, b, m, hrows, Store.rows_congr hb.schema hb.entities, hqueue, hrest, rfl⟩

theorem mem_reindexQueue_markHosts {list : List (String × String)} {s s' : Service} {n : Nat}
    (h : (markHosts targets list).on s = (.ok n, s')) {host : String} {id : EntityId} :
    id ∈ s'.store.reindexQueue host ↔ id ∈ s.store.reindexQueue host ∨ ∃ field rows,
      (host, field) ∈ list ∧ s.store.rows (Store.referring host field targets) = .ok rows ∧
        id ∈ rows.map (·.entityId) := by
  induction list generalizing s n with
  | nil =>
    cases h
    simp
  | cons first rest ih =>
    obtain ⟨host', field'⟩ := first
    obtain ⟨rows', b, m, hrows', hrows, hqueue, hrest, -⟩ := of_markHosts_cons h
    rw [ih hrest]
    show id ∈ b.store.reindexQueue host ∨ _ ↔ _
    rw [hqueue, or_assoc]
    refine or_congr_right ?_
    constructor
    · rintro (⟨rfl, hid⟩ | ⟨field, rows, hmem, hfound, hid⟩)
      · exact ⟨field', rows', List.mem_cons_self, hrows', hid⟩
      · exact ⟨field, rows, List.mem_cons_of_mem _ hmem, (hrows _).symm.trans hfound, hid⟩
    · rintro ⟨field, rows, hmem, hfound, hid⟩
      rcases List.mem_cons.1 hmem with heq | hmem
      · cases heq
        rw [hrows'] at hfound
        cases hfound
        exact .inl ⟨rfl, hid⟩
      · exact .inr ⟨field, rows, hmem, (hrows _).trans hfound, hid⟩

/-- A field through which a host type can lead to a target type: one of a registered
bundle of a content type. -/
structure LeadsTo (s : Schema) (host targetType : String) (f : Field) : Prop where
  content : ∃ t, s.entityType? host = some t ∧ t.content = true
  field : ∃ bundle ∈ s.bundleIds host, f ∈ s.fieldsOf host bundle
  target : f.targetType = some targetType

theorem mem_hostFields_iff {s : Store} (built : s.Built) {host targetType name : String} :
    (host, name) ∈ hostFields s.schema targetType ↔
      ∃ f, LeadsTo s.schema host targetType f ∧ f.name = name := by
  have hnames (t : EntityType) : name ∈ (KeyMap.ofList ((((s.schema.bundleIds t.id).flatMap fun b =>
      (s.schema.fieldsOf t.id b).filter fun f => f.targetType == some targetType).map
        fun f => (f.name, ())))).keys ↔ ∃ f, (∃ bundle ∈ s.schema.bundleIds t.id,
          f ∈ s.schema.fieldsOf t.id bundle) ∧ f.targetType = some targetType ∧ f.name = name := by
    rw [KeyMap.mem_keys_ofList_iff]
    simp only [List.mem_map, List.mem_flatMap, List.mem_filter, beq_iff_eq,
      exists_exists_and_eq_and]
    constructor
    · rintro ⟨f, ⟨bundle, hbundle, hf, htarget⟩, hname⟩
      exact ⟨f, ⟨bundle, hbundle, hf⟩, htarget, hname⟩
    · rintro ⟨f, ⟨bundle, hbundle, hf⟩, htarget, hname⟩
      exact ⟨f, ⟨bundle, hbundle, hf, htarget⟩, hname⟩
  simp only [hostFields, List.mem_flatMap, List.mem_map, List.mem_filter, exists_exists_and_eq_and,
    Prod.mk.injEq]
  constructor
  · rintro ⟨t, ⟨ht, hcontent⟩, name', hname', rfl, rfl⟩
    obtain ⟨id, hid⟩ := KeyMap.mem_values_iff.1 ht
    have hknown : s.schema.entityType? t.id = some t := by rwa [built.consistent.entityType_id hid]
    obtain ⟨f, hfield, htarget, hname⟩ := (hnames t).1 hname'
    exact ⟨f, ⟨⟨t, hknown, hcontent⟩, hfield, htarget⟩, hname⟩
  · rintro ⟨f, ⟨⟨t, ht, hcontent⟩, hfield, htarget⟩, hname⟩
    obtain rfl := built.consistent.entityType_id ht
    exact ⟨t, ⟨KeyMap.mem_values_iff.2 ⟨_, ht⟩, hcontent⟩, name,
      (hnames t).2 ⟨f, hfield, htarget, hname⟩, rfl, rfl⟩

theorem exists_rows_of_leadsTo {s : Store} (built : s.Built) (names : s.schema.WithoutPoints)
    {host targetType : String} {f : Field} (hf : LeadsTo s.schema host targetType f)
    (ids : List EntityId) :
    ∃ rows, s.rows (Store.referring host f.name (.array (ids.map EntityId.toJson))) = .ok rows ∧
      ∀ id, id ∈ rows.map (·.entityId) ↔
        ∃ e, s.load host id = some e ∧ e.refersToAny f.name ids = true := by
  obtain ⟨t, ht, -⟩ := hf.content
  obtain ⟨bundle, -, hfield⟩ := hf.field
  refine ⟨_, Store.rows_referring ht (fun _ => names.key ht) (names.field hfield)
    (Schema.isSome_anyField? hfield) ids, fun id => ?_⟩
  simp only [List.map_map, List.mem_map, List.mem_filter, Function.comp_apply]
  constructor
  · rintro ⟨e, ⟨he, hrefers⟩, rfl⟩
    exact ⟨e, built.consistent.load_of_mem he, hrefers⟩
  · rintro ⟨e, he, hrefers⟩
    exact ⟨e, ⟨KeyMap.mem_values_iff.2 ⟨_, he⟩, hrefers⟩, (built.consistent.id_of_load he).2⟩

theorem markForReindex_on {ids : List EntityId} (hsome : ids ≠ []) (targetType : String)
    (u : Service) : (markForReindex targetType ids).on u =
      (markHosts (.array (ids.map EntityId.toJson)) (hostFields u.schema targetType)).on u := by
  have hnonempty : ids.isEmpty = false := by simpa using hsome
  simp only [markForReindex, hnonempty, Bool.false_eq_true, if_false]
  exact Step.on_bind_ok (Step.on_get u)

/-- Marking that succeeds has flagged the stored entities that refer to one of the ids in a field
that leads to the type, and no others. -/
theorem mem_reindexQueue_markForReindex {u u' : Service} (built : u.store.Built)
    (names : u.schema.WithoutPoints) {targetType : String} {ids : List EntityId} {n : Nat}
    (h : (markForReindex targetType ids).on u = (.ok n, u')) {host : String} {id : EntityId} :
    id ∈ u'.store.reindexQueue host ↔ id ∈ u.store.reindexQueue host ∨ ∃ e f,
      u.store.load host id = some e ∧ LeadsTo u.schema host targetType f ∧
        e.refersToAny f.name ids = true := by
  by_cases hnone : ids = []
  · subst hnone
    cases h
    simp [Entity.refersToAny]
  rw [markForReindex_on hnone] at h
  rw [mem_reindexQueue_markHosts h]
  refine or_congr_right ?_
  constructor
  · rintro ⟨field, rows, hmem, hfound, hid⟩
    obtain ⟨f, hf, rfl⟩ := (mem_hostFields_iff built).1 hmem
    obtain ⟨rows', hrows', hiff⟩ := exists_rows_of_leadsTo built names hf ids
    rw [hrows'] at hfound
    cases hfound
    obtain ⟨e, he, hrefers⟩ := (hiff id).1 hid
    exact ⟨e, f, he, hf, hrefers⟩
  · rintro ⟨e, f, he, hf, hrefers⟩
    obtain ⟨rows, hfound, hiff⟩ := exists_rows_of_leadsTo built names hf ids
    exact ⟨f.name, rows, (mem_hostFields_iff built).2 ⟨f, hf, rfl⟩, hfound,
      (hiff id).2 ⟨e, he, hrefers⟩⟩

theorem marked_markForReindex (targetType : String) (ids : List EntityId) (u : Service) :
    u.backend.Marked ((markForReindex targetType ids).on u).2.backend := by
  by_cases hnone : ids = []
  · subst hnone
    exact .refl
  · rw [markForReindex_on hnone]
    exact marked_markHosts _ _ u

/-- The field in which a host refers to an id leads from its type to that of the id. -/
theorem Refers.exists_leadsTo {schema : Schema} {host : Entity} {t : EntityType}
    (known : schema.entityType? host.entityType = some t) (content : t.content = true)
    (registered : host.bundle ∈ schema.bundleIds host.entityType) {targetType : String}
    {id : EntityId}
    (h : Refers schema host targetType id) : ∃ f, LeadsTo schema host.entityType targetType f ∧
      id ∈ host.referencedIds f.name := by
  obtain ⟨f, hf, htarget, hid⟩ := h
  refine ⟨f, ⟨⟨t, known, content⟩, ⟨_, registered, hf⟩, ?_⟩, hid⟩
  rw [contentTarget?] at htarget
  obtain ⟨targetType', htarget', hcontent⟩ := Option.bind_eq_some_iff.1 htarget
  obtain ⟨definition, -, hresult⟩ := Option.bind_eq_some_iff.1 hcontent
  split at hresult
  · cases hresult
    exact htarget'
  · cases hresult

/-- No reindexing is missed. The tags of a fragment are those of the stored entities that its host
refers to and of their bundles; and whenever such an entity is among those marked for, while the
host is stored, the host is flagged. Marking takes no flag back. -/
theorem referring_host_marked {s : Service} (registry : s.registry = Registry.builtin)
    (built : s.store.Built) (hidden : s.backend.outages.hidden = [])
    (names : s.schema.WithoutPoints) {host : Entity} {t : EntityType}
    (known : s.schema.entityType? host.entityType = some t)
    (content : t.content = true) (registered : host.bundle ∈ s.schema.bundleIds host.entityType)
    {fragment : IndexFragment} (h : ((SearchIndex.fragment host).on s).1 = .ok fragment) :
    (∀ tag, tag ∈ fragment.cacheTags ↔ ∃ targetType id e, Refers s.schema host targetType id ∧
      s.store.load targetType id = some e ∧
        (tag = targetType ++ ":" ++ id.text ∨ tag = bundleTag targetType e.bundle)) ∧
    (∀ targetType id ids u u' n, Refers s.schema host targetType id → id ∈ ids → u.store.Built →
      u.schema = s.schema → u.store.load host.entityType host.id = some host →
        (markForReindex targetType ids).on u = (.ok n, u') →
          host.id ∈ u'.store.reindexQueue host.entityType) ∧
    ∀ targetType ids u entityType id, id ∈ u.store.reindexQueue entityType →
      id ∈ ((markForReindex targetType ids).on u).2.store.reindexQueue entityType := by
  refine ⟨fun tag => mem_cacheTags_iff registry built hidden h, ?_, ?_⟩
  · intro targetType id ids u u' n hrefers hid builtAfter hschema stored hmark
    obtain ⟨f, hf, hreferenced⟩ := hrefers.exists_leadsTo known content registered
    rw [← hschema] at names hf
    exact (mem_reindexQueue_markForReindex builtAfter names hmark).2
      (.inr ⟨host, f, stored, hf, Entity.refersToAny_of_mem hreferenced hid⟩)
  · exact fun targetType ids u entityType id hid =>
      (marked_markForReindex targetType ids u).flags hid

theorem referring_host_marked_page :
    ((fragment ReferenceProvider.authoredPage).on Lookup.authorService).1 =
      .ok ⟨"", ["user:2", "synonyms:user.user"]⟩ ∧
    ((markForReindex "user" [⟨"2"⟩]).on Lookup.authorService).1 = .ok 1 ∧
    ⟨"1"⟩ ∈ ((markForReindex "user" [⟨"2"⟩]).on Lookup.authorService).2.store.reindexQueue
      "node" := by
  have hfragment : ((fragment ReferenceProvider.authoredPage).on Lookup.authorService).1 =
      .ok ⟨"", ["user:2", "synonyms:user.user"]⟩ := by decide +kernel
  have hmark : ((markForReindex "user" [⟨"2"⟩]).on Lookup.authorService).1 = .ok 1 := by
    decide +kernel
  have built : Lookup.authorService.store.Built := ReferenceProvider.built_authorStore "user"
  have hrefers : Refers Lookup.authorService.schema ReferenceProvider.authoredPage "user" ⟨"2"⟩ :=
    ⟨.reference "author" "Author" "user", by decide, rfl, by decide⟩
  obtain ⟨-, hmarked, -⟩ := referring_host_marked (s := Lookup.authorService) rfl built rfl
    Lookup.plain_author.withoutPoints rfl rfl (by decide) hfragment
  exact ⟨hfragment, hmark, hmarked "user" ⟨"2"⟩ [⟨"2"⟩] Lookup.authorService _ 1 hrefers
    List.mem_cons_self built rfl rfl (Step.on_eq_of_fst hmark)⟩

end SearchIndex

end SynonymLookup
