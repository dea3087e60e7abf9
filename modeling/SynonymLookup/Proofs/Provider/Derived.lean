import SynonymLookup.Proofs.Provider.ReferenceSearch
import SynonymLookup.Proofs.Provider.Registry

/-! Providers made from plugin ids. Over a schema with plain names every one of them searches what
it extracts, within the type and bundle that its plugin id names. -/

namespace SynonymLookup

/-- Names have no points, keys do not fall together, and every reference field of one name
refers to the same labelled type. -/
structure Schema.Plain (s : Schema) : Prop where
  entityType : ∀ {id t}, s.entityType? id = some t → id ≠ "" ∧ '.' ∉ id.toList
  bundle : ∀ {entityType b}, b ∈ s.bundlesOf entityType → b.id ≠ "" ∧ '.' ∉ b.id.toList
  field : ∀ {entityType bundle f}, f ∈ s.fieldsOf entityType bundle →
    f.name ≠ "" ∧ '.' ∉ f.name.toList
  key : ∀ {id t key}, s.entityType? id = some t → t.isKey key = true → '.' ∉ key.toList
  bundle_ne_id : ∀ {id t}, s.entityType? id = some t → t.keys.bundle ≠ some t.keys.id
  label_ne : ∀ {id t label}, s.entityType? id = some t → t.labelColumn = some label →
    label ≠ t.keys.id ∧ t.keys.bundle ≠ some label
  same_target : ∀ {entityType bundle bundle' f f'}, f ∈ s.fieldsOf entityType bundle →
    f' ∈ s.fieldsOf entityType bundle' → f.name = f'.name → f.targetType = f'.targetType
  labelled : ∀ {entityType bundle f}, f ∈ s.fieldsOf entityType bundle → f.isReference = true →
    ∃ target x label, f.targetType = some target ∧ s.entityType? target = some x ∧
      x.labelColumn = some label

namespace Schema

theorem exists_mem_fieldsOf {s : Schema} {entityType name : String} {f : Field} (bundle : String)
    (h : s.anyField? entityType name = some f) :
    f.name = name ∧ ∃ bundle, f ∈ s.fieldsOf entityType bundle := by
  unfold anyField? at h
  refine ⟨by simpa using List.find?_some h, ?_⟩
  rcases List.mem_append.1 (List.mem_of_find?_eq_some h) with hf | hf
  · exact ⟨bundle, List.mem_append_left _ hf⟩
  · cases ht : s.bundleFields.get? entityType with
    | none => simp [ht] at hf
    | some m =>
      simp only [ht, Option.map_some, Option.getD_some, List.mem_flatten] at hf
      obtain ⟨fields, hfields, hf⟩ := hf
      obtain ⟨bundle, hb⟩ := KeyMap.mem_values_iff.1 hfields
      refine ⟨bundle, List.mem_append_right _ ?_⟩
      simpa [ownFieldsOf, ht, hb] using hf

theorem mem_fieldsOf {s : Schema} {entityType bundle : String} {f : Field}
    (h : f ∈ s.fieldsOf entityType bundle) :
    (∃ e ∈ s.baseFields.entries, e.1 = entityType ∧ f ∈ e.2) ∨
      ∃ e ∈ s.bundleFields.entries, e.1 = entityType ∧
        ∃ own ∈ e.2.entries, own.1 = bundle ∧ f ∈ own.2 := by
  rcases List.mem_append.1 h with h | h
  · unfold baseFieldsOf at h
    cases hl : s.baseFields.get? entityType with
    | none => simp [hl] at h
    | some l => exact .inl ⟨_, KeyMap.get?_eq_some_iff.1 hl, rfl, by simpa [hl] using h⟩
  · unfold ownFieldsOf at h
    cases hm : s.bundleFields.get? entityType with
    | none => simp [hm] at h
    | some m =>
      cases hl : m.get? bundle with
      | none => simp [hm, hl] at h
      | some l =>
        exact .inr ⟨_, KeyMap.get?_eq_some_iff.1 hm, rfl, _, KeyMap.get?_eq_some_iff.1 hl, rfl,
          by simpa [hm, hl] using h⟩

theorem exists_field? {s : Schema} {entityType bundle : String} {f : Field}
    (h : f ∈ s.fieldsOf entityType bundle) :
    ∃ g ∈ s.fieldsOf entityType bundle, s.field? entityType bundle f.name = some g ∧
      g.name = f.name := by
  have hsome : ((s.fieldsOf entityType bundle).find? fun g => g.name == f.name).isSome := by
    rw [List.find?_isSome]
    exact ⟨f, h, by simp⟩
  obtain ⟨g, hg⟩ := Option.isSome_iff_exists.1 hsome
  exact ⟨g, List.mem_of_find?_eq_some hg, hg, by simpa using List.find?_some hg⟩

end Schema

/-- A provider searches what it extracts, in the type and bundle that a plugin id names. -/
structure Provider.Searches (p : Provider) (plugin : String) (b : Backend) (t : EntityType) :
    Prop where
  known : b.schema.entityType? p.definition.entityType = some t
  parsed : ∃ q, PluginId.parse? plugin = some q ∧ q.entityType = p.definition.entityType ∧
    q.bundle = p.definition.bundle
  find_on : ∀ {c : Condition}, c.Askable →
    (p.find c).on b = (.ok (p.definition.matching t b.store (p.synonyms b) c), b.counted)

namespace Schema.Plain

variable {b : Backend} {baseId : String} {eligible : Field → Bool} {d : ProviderDefinition}

theorem derived (plain : b.schema.Plain) (built : b.store.Built) (hbase : ':' ∉ baseId.toList)
    (hd : d ∈ b.schema.deriveFields baseId eligible) :
    ∃ t f, b.schema.entityType? d.entityType = some t ∧
      f ∈ b.schema.fieldsOf d.entityType d.bundle ∧
      eligible f = true ∧ d.field = f.name ∧ d.bundle ≠ "" ∧ '.' ∉ d.field.toList ∧
      PluginId.parse? d.id = some ⟨baseId, d.entityType, d.bundle, d.field⟩ := by
  obtain ⟨t, ht, bundle, hbundle, f, hf, heligible, rfl⟩ := Schema.mem_deriveFields hd
  obtain ⟨id, hid⟩ := KeyMap.mem_values_iff.1 ht
  have hsame : t.id = id := built.consistent.entityType_id hid
  have hknown : b.schema.entityType? t.id = some t := by
    rw [hsame]
    exact hid
  obtain ⟨htype, htypePoint⟩ := plain.entityType hknown
  obtain ⟨hname, hnamePoint⟩ := plain.bundle hbundle
  obtain ⟨hfield, hfieldPoint⟩ := plain.field hf
  exact ⟨t, f, hknown, hf, heligible, rfl, hname, hfieldPoint,
    PluginId.parse?_make f.label hbase htypePoint hnamePoint htype hname hfield⟩

theorem searches_field (plain : b.schema.Plain) (built : b.store.Built) (up : b.InService)
    {p : ProviderBase} (hp : p = FieldProvider.base ∨ p = FieldProvider.configurable)
    (hd : d ∈ p.derive b.schema) (settings : ProviderConfiguration) :
    ∃ t, (p.create b.schema d settings).Searches d.id b t := by
  have hderived : ∃ baseId eligible, ':' ∉ baseId.toList ∧
      d ∈ b.schema.deriveFields baseId eligible := by
    rcases hp with rfl | rfl
    · exact ⟨_, _, by decide, hd⟩
    · exact ⟨_, _, by decide, hd⟩
  obtain ⟨baseId, eligible, hbase, hderived⟩ := hderived
  obtain ⟨t, f, hknown, hf, -, hname, hbundle, hfield, hparse⟩ := plain.derived built hbase hderived
  have hany : (b.schema.anyField? d.entityType d.field).isSome := by
    rw [hname]
    exact Schema.isSome_anyField? hf
  have hsearched := FieldProvider.searched_column built hknown hany hbundle hfield
    (fun key => plain.key hknown) (plain.bundle_ne_id hknown)
  have hcreate : p.create = FieldProvider.create := by rcases hp with rfl | rfl <;> rfl
  rw [hcreate]
  exact ⟨t, hknown, ⟨_, hparse, rfl, rfl⟩, fun hc =>
    FieldProvider.create_find_on hsearched hc up.resolve up.execute settings⟩

theorem searches_reference (plain : b.schema.Plain) (built : b.store.Built) (up : b.InService)
    (hd : d ∈ ReferenceProvider.base.derive b.schema) (settings : ProviderConfiguration) :
    ∃ t, (ReferenceProvider.base.create b.schema d settings).Searches d.id b t := by
  obtain ⟨t, f, hknown, hf, hreference, hname, hbundle, hfield, hparse⟩ :=
    plain.derived built (by decide) hd
  obtain ⟨target, x, label, htarget, hx, hlabel⟩ := plain.labelled hf hreference
  obtain ⟨g, hg, hfound, hgname⟩ := Schema.exists_field? hf
  obtain ⟨any, hany⟩ := Option.isSome_iff_exists.1 (Schema.isSome_anyField? hf)
  obtain ⟨hanyName, bundle, hanyField⟩ := Schema.exists_mem_fieldsOf d.bundle hany
  have hown : (d.field? b.schema).bind (·.targetType) = some target := by
    unfold ProviderDefinition.field?
    rw [hname, hfound, Option.bind_some, plain.same_target hg hf hgname, htarget]
  have hsame : (b.schema.anyField? d.entityType d.field).bind (·.targetType) = some target := by
    rw [hname, hany, Option.bind_some, plain.same_target hanyField hf hanyName, htarget]
  have hlabelled : ReferenceProvider.Labelled b.schema d t x target label :=
    { known := hknown, refers := hown, target_known := hx, labelled := hlabel,
      label_ne_id := (plain.label_ne hx hlabel).1, label_ne_bundle := (plain.label_ne hx hlabel).2,
      bundle_ne_id := plain.bundle_ne_id hknown, named := hbundle, field := hfield,
      keys := fun key => plain.key hknown }
  exact ⟨t, hknown, ⟨_, hparse, rfl, rfl⟩, fun hc =>
    ReferenceProvider.find_of_same_target hlabelled built up hsame hc⟩

theorem searches_create (plain : b.schema.Plain) (built : b.store.Built) (up : b.InService)
    {plugin : String} {settings : ProviderConfiguration} {p : Provider}
    (hp : Registry.builtin.create b.schema plugin settings = .ok p) :
    ∃ t, p.Searches plugin b t := by
  obtain ⟨base, hbase, d, hd, rfl, rfl⟩ := Registry.create_eq_ok hp
  rcases Registry.mem_builtin.1 hbase with rfl | rfl | rfl
  · exact plain.searches_field built up (.inl rfl) hd settings
  · exact plain.searches_field built up (.inr rfl) hd settings
  · exact plain.searches_reference built up hd settings

end Schema.Plain

end SynonymLookup
