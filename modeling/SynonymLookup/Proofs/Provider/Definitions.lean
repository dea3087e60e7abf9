import Mathlib.Data.List.Basic
import Mathlib.Data.List.Nodup
import Mathlib.Data.List.Perm.Basic
import SynonymLookup.Proofs.Provider.FieldSearch
import SynonymLookup.Proofs.Provider.PluginId
import SynonymLookup.Proofs.Provider.Registry

/-! The definitions that the registered bases derive. Every field of a bundle of content
has one base at most, so each is derived once, and an id leads back to the one
definition that it was made for. -/

namespace SynonymLookup

/-- The base that covers a field. The computed list field has none. -/
def Field.providerBase? (f : Field) : Option String :=
  if f.name = synonymsFieldName then none
  else if f.isReference then some "entity_reference"
  else if (simpleFieldProperty? f.fieldType).isSome then
    some (if f.base then "base_field" else "field")
  else none

theorem Field.simpleFieldProperty?_of_isReference {f : Field} (h : f.isReference = true) :
    simpleFieldProperty? f.fieldType = none := by
  rw [isReference, beq_iff_eq] at h
  rw [h]
  decide

theorem Field.eligible_eq (f : Field) :
    (f.name != synonymsFieldName && (f.base && (simpleFieldProperty? f.fieldType).isSome)) =
        (f.providerBase? == some FieldProvider.base.id) ∧
      (f.name != synonymsFieldName && (!f.base && (simpleFieldProperty? f.fieldType).isSome)) =
        (f.providerBase? == some FieldProvider.configurable.id) ∧
      (f.name != synonymsFieldName && f.isReference) =
        (f.providerBase? == some ReferenceProvider.base.id) := by
  by_cases hname : f.name = synonymsFieldName
  · simp [providerBase?, hname]
  · by_cases hreference : f.isReference = true
    · simp [providerBase?, hname, hreference, simpleFieldProperty?_of_isReference hreference,
        FieldProvider.base, FieldProvider.configurable, ReferenceProvider.base]
    · cases hsimple : simpleFieldProperty? f.fieldType <;> cases hown : f.base <;>
        simp [providerBase?, hname, hreference, hsimple, hown, FieldProvider.base,
          FieldProvider.configurable, ReferenceProvider.base]

theorem Field.exists_base {f : Field} {baseId : String} (h : f.providerBase? = some baseId) :
    ∃ base ∈ Registry.builtin, base.id = baseId := by
  unfold providerBase? at h
  split_ifs at h <;> cases h
  · exact ⟨ReferenceProvider.base, by simp [Registry.builtin], rfl⟩
  · exact ⟨FieldProvider.base, by simp [Registry.builtin], rfl⟩
  · exact ⟨FieldProvider.configurable, by simp [Registry.builtin], rfl⟩

structure Place where
  entityType : String
  bundle : String
  field : Field

namespace Place

def names (p : Place) : String × String × String := (p.entityType, p.bundle, p.field.name)

def definition (p : Place) (baseId : String) : ProviderDefinition :=
  ProviderDefinition.make baseId p.entityType p.bundle p.field.name p.field.label

def derived? (p : Place) : Option ProviderDefinition := p.field.providerBase?.map p.definition

end Place

def ProviderDefinition.names (d : ProviderDefinition) : String × String × String :=
  (d.entityType, d.bundle, d.field)

theorem Place.names_of_derived? {p : Place} {d : ProviderDefinition} (h : p.derived? = some d) :
    d.names = p.names := by
  obtain ⟨baseId, -, rfl⟩ := Option.map_eq_some_iff.1 h
  rfl

namespace Schema

def places (s : Schema) : List Place :=
  (s.entityTypes.values.filter EntityType.content).flatMap fun t =>
    (s.bundlesOf t.id).flatMap fun b => (s.fieldsOf t.id b.id).map (Place.mk t.id b.id)

variable {s : Schema}

theorem mem_places_iff {p : Place} :
    p ∈ s.places ↔ ∃ t ∈ s.entityTypes.values, t.content = true ∧ ∃ b ∈ s.bundlesOf t.id,
      ∃ f ∈ s.fieldsOf t.id b.id, p = ⟨t.id, b.id, f⟩ := by
  simp only [places, List.mem_flatMap, List.mem_filter, List.mem_map, and_assoc]
  simp only [eq_comm]

theorem deriveFields_eq {eligible covered : Field → Bool}
    (h : ∀ f : Field, (f.name != synonymsFieldName && eligible f) = covered f) (baseId : String) :
    s.deriveFields baseId eligible =
      (s.places.filter fun p => covered p.field).map fun p => p.definition baseId := by
  simp only [deriveFields, derive, h, places, List.filter_flatMap, List.map_flatMap,
    List.filter_map, List.map_map]
  rfl

structure PointFree (s : Schema) : Prop where
  entityType : ∀ {id t}, s.entityType? id = some t → '.' ∉ id.toList
  bundle : ∀ {entityType b}, b ∈ s.bundlesOf entityType → '.' ∉ b.id.toList

def FieldsApart (s : Schema) : Prop :=
  ∀ {entityType b}, b ∈ s.bundlesOf entityType → ((s.fieldsOf entityType b.id).map Field.name).Nodup

end Schema

namespace Store

variable {s : Store}

theorem Consistent.typeIds_nodup (h : s.Consistent) :
    (s.schema.entityTypes.values.map EntityType.id).Nodup := by
  have hkeys : s.schema.entityTypes.values.map EntityType.id =
      s.schema.entityTypes.entries.map Prod.fst := by
    unfold KeyMap.values
    rw [List.map_map]
    exact List.map_congr_left fun e he => h.entityType_id (KeyMap.get?_eq_some_iff.2 he)
  rw [hkeys]
  exact s.schema.entityTypes.nodup_keys

theorem Consistent.contentTypes_apart (h : s.Consistent) :
    (s.schema.entityTypes.values.filter EntityType.content).Pairwise fun t t' => t.id ≠ t'.id :=
  (List.pairwise_map.1 h.typeIds_nodup).filter _

theorem Built.places_nodup (built : s.Built) (apart : s.schema.FieldsApart) :
    (s.schema.places.map Place.names).Nodup := by
  have hbundles (t : EntityType) : (s.schema.bundlesOf t.id).Pairwise fun b b' => b.id ≠ b'.id :=
    List.pairwise_map.1 (built.bundleIds_nodup t.id)
  have hfields (t : EntityType) {b : Bundle} (hb : b ∈ s.schema.bundlesOf t.id) :
      (s.schema.fieldsOf t.id b.id).Pairwise fun f f' => f.name ≠ f'.name :=
        List.pairwise_map.1 (apart hb)
  -- two places differ in the type, else in the bundle, else in the name of the field
  unfold Schema.places
  refine List.pairwise_map.2
    (List.pairwise_flatMap.2 ⟨fun t _ => ?_, built.consistent.contentTypes_apart.imp ?_⟩)
  · refine List.pairwise_flatMap.2 ⟨fun b hb => ?_, (hbundles t).imp ?_⟩
    · exact List.pairwise_map.2 ((hfields t hb).imp fun hne heq =>
        hne (congrArg (fun n => n.2.2) heq))
    · intro b b' hne p hp p' hp' heq
      obtain ⟨f, -, rfl⟩ := List.mem_map.1 hp
      obtain ⟨f', -, rfl⟩ := List.mem_map.1 hp'
      exact hne (congrArg (fun n => n.2.1) heq)
  · intro t t' hne p hp p' hp' heq
    obtain ⟨b, -, hp⟩ := List.mem_flatMap.1 hp
    obtain ⟨b', -, hp'⟩ := List.mem_flatMap.1 hp'
    obtain ⟨f, -, rfl⟩ := List.mem_map.1 hp
    obtain ⟨f', -, rfl⟩ := List.mem_map.1 hp'
    exact hne (congrArg Prod.fst heq)

theorem Built.eq_of_names_eq (built : s.Built) (apart : s.schema.FieldsApart) {p p' : Place}
    (hp : p ∈ s.schema.places) (hp' : p' ∈ s.schema.places) (h : p.names = p'.names) : p = p' :=
  List.inj_on_of_nodup_map (built.places_nodup apart) hp hp' h

end Store

namespace Registry

variable {s : Schema}

/-- Every base derives a definition for each field that it covers. -/
theorem derive_builtin {base : ProviderBase} (h : base ∈ builtin) (s : Schema) :
    base.derive s = (s.places.filter fun p => p.field.providerBase? == some base.id).map
      fun p => p.definition base.id := by
  rcases mem_builtin.1 h with rfl | rfl | rfl
  · exact Schema.deriveFields_eq (fun f => f.eligible_eq.1) _
  · exact Schema.deriveFields_eq (fun f => f.eligible_eq.2.1) _
  · exact Schema.deriveFields_eq (fun f => f.eligible_eq.2.2) _

theorem mem_derive_builtin {base : ProviderBase} (h : base ∈ builtin) {d : ProviderDefinition} :
    d ∈ base.derive s ↔
      ∃ p ∈ s.places, p.field.providerBase? = some base.id ∧ p.definition base.id = d := by
  simp only [derive_builtin h, List.mem_map, List.mem_filter, beq_iff_eq, and_assoc]

/-- What is derived is the definition of a field by the base that covers it. -/
theorem mem_definitions_builtin {d : ProviderDefinition} :
    d ∈ builtin.definitions s ↔ ∃ p ∈ s.places, p.derived? = some d := by
  simp only [definitions, List.mem_flatMap, Place.derived?, Option.map_eq_some_iff]
  constructor
  · rintro ⟨base, hbase, hd⟩
    obtain ⟨p, hp, hcovered, hd⟩ := (mem_derive_builtin hbase).1 hd
    exact ⟨p, hp, base.id, hcovered, hd⟩
  · rintro ⟨p, hp, baseId, hcovered, hd⟩
    obtain ⟨base, hbase, rfl⟩ := Field.exists_base hcovered
    exact ⟨base, hbase, (mem_derive_builtin hbase).2 ⟨p, hp, hcovered, hd⟩⟩

theorem builtin_apart : builtin.Pairwise fun base base' => base.id ≠ base'.id := by
  simp [builtin, FieldProvider.base, FieldProvider.configurable, ReferenceProvider.base]

variable {st : Store}

/-- An id tells the base and the place that it was made for. -/
theorem of_definition_id_eq (built : st.Built) (pointFree : st.schema.PointFree)
    {base base' : ProviderBase} (hbase : base ∈ builtin) (hbase' : base' ∈ builtin) {p p' : Place}
    (hp : p ∈ st.schema.places) (hp' : p' ∈ st.schema.places)
    (h : (p.definition base.id).id = (p'.definition base'.id).id) :
    base.id = base'.id ∧ p.names = p'.names := by
  have hpoints {p : Place} (hp : p ∈ st.schema.places) :
      '.' ∉ p.entityType.toList ∧ '.' ∉ p.bundle.toList := by
    obtain ⟨t, ht, -, b, hb, f, -, rfl⟩ := Schema.mem_places_iff.1 hp
    obtain ⟨id, hid⟩ := KeyMap.mem_values_iff.1 ht
    have hsame : t.id = id := built.consistent.entityType_id hid
    exact ⟨hsame ▸ pointFree.entityType hid, pointFree.bundle hb⟩
  obtain ⟨hsame, htype, hbundle, hfield⟩ := PluginId.make_id_inj (colon_notMem_builtin hbase)
    (colon_notMem_builtin hbase') (hpoints hp).1 (hpoints hp').1 (hpoints hp).2 (hpoints hp').2 h
  refine ⟨hsame, ?_⟩
  unfold Place.names
  rw [htype, hbundle, hfield]

theorem definitionIds_nodup (built : st.Built) (pointFree : st.schema.PointFree)
    (apart : st.schema.FieldsApart) :
    ((builtin.definitions st.schema).map ProviderDefinition.id).Nodup := by
  refine List.pairwise_map.2 (List.pairwise_flatMap.2 ⟨fun base hbase => ?_, ?_⟩)
  · rw [derive_builtin hbase]
    refine List.pairwise_map.2
      (.imp_of_mem ?_ ((List.pairwise_map.1 (built.places_nodup apart)).filter _))
    intro p p' hp hp' hne heq
    exact hne (of_definition_id_eq built pointFree hbase hbase (List.mem_of_mem_filter hp)
      (List.mem_of_mem_filter hp') heq).2
  · refine .imp_of_mem ?_ builtin_apart
    intro base base' hbase hbase' hne d hd d' hd' heq
    obtain ⟨p, hp, -, rfl⟩ := (mem_derive_builtin hbase).1 hd
    obtain ⟨p', hp', -, rfl⟩ := (mem_derive_builtin hbase').1 hd'
    exact hne (of_definition_id_eq built pointFree hbase hbase' hp hp' heq).1

theorem eq_of_definition_id_eq (built : st.Built) (pointFree : st.schema.PointFree)
    (apart : st.schema.FieldsApart) {d d' : ProviderDefinition}
    (hd : d ∈ builtin.definitions st.schema) (hd' : d' ∈ builtin.definitions st.schema)
    (h : d.id = d'.id) : d = d' :=
  List.inj_on_of_nodup_map (definitionIds_nodup built pointFree apart) hd hd' h

theorem resolve?_eq_some_iff (built : st.Built) (pointFree : st.schema.PointFree)
    (apart : st.schema.FieldsApart) {plugin : String} {base : ProviderBase}
    {d : ProviderDefinition} :
    builtin.resolve? st.schema plugin = some (base, d) ↔
      base ∈ builtin ∧ d ∈ base.derive st.schema ∧ d.id = plugin := by
  refine ⟨resolve?_eq_some, fun ⟨hbase, hd, hid⟩ => ?_⟩
  have hcut : ∃ derivative, Text.cut ':' plugin = some (base.id, derivative) := by
    obtain ⟨p, -, -, rfl⟩ := (mem_derive_builtin hbase).1 hd
    subst hid
    exact PluginId.cut_make_id (colon_notMem_builtin hbase) _ _ _ _
  have hfound : builtin.base? base.id = some base := by
    rcases mem_builtin.1 hbase with rfl | rfl | rfl <;> rfl
  -- another definition of the id would be the same one
  have hfirst : (base.derive st.schema).find? (fun d => d.id == plugin) = some d := by
    have hsome : ((base.derive st.schema).find? fun d => d.id == plugin).isSome := by
      rw [List.find?_isSome]
      exact ⟨d, hd, by simp [hid]⟩
    obtain ⟨d', hd'⟩ := Option.isSome_iff_exists.1 hsome
    have hmem : ∀ {d}, d ∈ base.derive st.schema → d ∈ builtin.definitions st.schema :=
      fun h => List.mem_flatMap.2 ⟨base, hbase, h⟩
    have hsame : d'.id = plugin := by simpa using List.find?_some hd'
    rw [hd', eq_of_definition_id_eq built pointFree apart (hmem (List.mem_of_find?_eq_some hd'))
      (hmem hd) (hsame.trans hid.symm)]
  obtain ⟨derivative, hcut⟩ := hcut
  simp [resolve?, hcut, hfound, hfirst]

theorem definition?_eq_some_iff (built : st.Built) (pointFree : st.schema.PointFree)
    (apart : st.schema.FieldsApart) {plugin : String} {d : ProviderDefinition} :
    builtin.definition? st.schema plugin = some d ↔
      d ∈ builtin.definitions st.schema ∧ d.id = plugin := by
  have hresolve (base : ProviderBase) : builtin.resolve? st.schema plugin = some (base, d) ↔
      base ∈ builtin ∧ d ∈ base.derive st.schema ∧ d.id = plugin :=
    resolve?_eq_some_iff built pointFree apart
  simp only [definition?, Option.map_eq_some_iff, Prod.exists, exists_eq_right,
    hresolve, definitions, List.mem_flatMap]
  tauto

theorem create_builtin {s : Schema} {plugin : String} {settings : ProviderConfiguration}
    {d : ProviderDefinition} :
    (∃ p, builtin.create s plugin settings = .ok p ∧ p.definition = d) ↔
      builtin.definition? s plugin = some d := by
  have hbound {base : ProviderBase} (h : base ∈ builtin) (d : ProviderDefinition) :
      (base.create s d settings).definition = d := by
    rcases mem_builtin.1 h with rfl | rfl | rfl <;> rfl
  unfold create definition?
  cases hresolve : builtin.resolve? s plugin with
  | none => simp
  | some found =>
    obtain ⟨base, d'⟩ := found
    have hcreated := hbound (resolve?_eq_some hresolve).1 d'
    show (∃ p, Except.ok (base.create s d' settings) = .ok p ∧ p.definition = d) ↔ some d' = some d
    simp [hcreated]

theorem eq_toList_of_nodup {α : Type} {l : List α} {o : Option α} (nodup : l.Nodup)
    (hmem : ∀ a, a ∈ l ↔ o = some a) : l = o.toList := by
  have hperm : l.Perm o.toList := by
    rw [List.perm_ext_iff_of_nodup nodup (by cases o <;> simp)]
    simp [hmem]
  cases o with
  | none => exact hperm.eq_nil
  | some a => exact List.perm_singleton.1 hperm

/-- A place has the one definition by the base that covers its field, or none. -/
theorem filter_definitions (built : st.Built) (pointFree : st.schema.PointFree)
    (apart : st.schema.FieldsApart) {p : Place} (hp : p ∈ st.schema.places) :
    (builtin.definitions st.schema).filter (fun d => d.names == p.names) = p.derived?.toList := by
  have nodup : (builtin.definitions st.schema).Nodup :=
    (definitionIds_nodup built pointFree apart).of_map _
  refine eq_toList_of_nodup (nodup.filter _) fun d => ?_
  simp only [List.mem_filter, mem_definitions_builtin, beq_iff_eq]
  constructor
  · rintro ⟨⟨p', hp', hd⟩, hnames⟩
    rwa [built.eq_of_names_eq apart hp hp' (hnames.symm.trans (Place.names_of_derived? hd))]
  · exact fun hd => ⟨⟨p, hp, hd⟩, Place.names_of_derived? hd⟩

/-- Over a schema of plain ids whose bundles have no two fields of one name, each field of
a bundle of content has the one definition by the base that covers it, and nothing else is
derived. No two definitions have the same id, and what is looked up or made for an id is
the definition that has it. -/
theorem derived_once_per_field (built : st.Built) (pointFree : st.schema.PointFree)
    (apart : st.schema.FieldsApart) :
    (∀ p ∈ st.schema.places,
      (builtin.definitions st.schema).filter (fun d => d.names == p.names) = p.derived?.toList) ∧
    (∀ d ∈ builtin.definitions st.schema, ∃ p ∈ st.schema.places, p.derived? = some d) ∧
    ((builtin.definitions st.schema).map ProviderDefinition.id).Nodup ∧
    ∀ plugin d,
      (builtin.definition? st.schema plugin = some d ↔
        d ∈ builtin.definitions st.schema ∧ d.id = plugin) ∧
      ∀ settings, (∃ p, builtin.create st.schema plugin settings = .ok p ∧ p.definition = d) ↔
        d ∈ builtin.definitions st.schema ∧ d.id = plugin := by
  have hlookup {plugin : String} {d : ProviderDefinition} :
      builtin.definition? st.schema plugin = some d ↔
        d ∈ builtin.definitions st.schema ∧ d.id = plugin :=
    definition?_eq_some_iff built pointFree apart
  exact ⟨fun p hp => filter_definitions built pointFree apart hp,
    fun d hd => mem_definitions_builtin.1 hd, definitionIds_nodup built pointFree apart,
    fun plugin d => ⟨hlookup, fun settings => create_builtin.trans hlookup⟩⟩

/-- Nodes of one bundle have a field of each sort: by reference, shared, their own, of no synonyms,
and the computed list. Users have no bundles; settings are no content. -/
def sortedStore : Store :=
  let node : EntityType := { id := "node", keys := { id := "nid", bundle := some "type" } }
  let user : EntityType := { id := "user" }
  let setting : EntityType := { id := "setting", content := false }
  ((((((((((({} : Store).mapSchema (·.insertEntityType node)).mapSchema
    (·.insertEntityType user)).mapSchema (·.insertEntityType setting)).mapSchema
    (·.insertBundle "node" ⟨"article", "Article"⟩)).mapSchema
    (·.insertField "node" "article" (Field.reference "tags" "Tags" "term"))).mapSchema
    (·.insertField "node" "article"
      { name := "title", fieldType := "string", base := true })).mapSchema
    (·.insertField "node" "article" { name := "alias", fieldType := "string" })).mapSchema
    (·.insertField "node" "article" { name := "image", fieldType := "image" })).mapSchema
    (·.insertField "node" "article" { name := "synonyms", fieldType := "string" })).mapSchema
    (·.insertField "user" "user" { name := "mail", fieldType := "email" })).mapSchema
    (·.insertField "setting" "setting" { name := "note", fieldType := "string" })

theorem derived_once_per_field_sorted :
    sortedStore.Built ∧ sortedStore.schema.PointFree ∧ sortedStore.schema.FieldsApart ∧
    (builtin.definitions sortedStore.schema).filter
      (fun d => d.names == ("node", "article", "tags")) =
      [.make "entity_reference" "node" "article" "tags" "Tags"] ∧
    (builtin.definitions sortedStore.schema).filter
      (fun d => d.names == ("node", "article", "synonyms")) = [] ∧
    builtin.definition? sortedStore.schema "field:user.user.mail" =
      some (.make "field" "user" "user" "mail" "") ∧
    ∃ p, builtin.create sortedStore.schema "base_field:node.article.title" {} = .ok p ∧
      p.definition = .make "base_field" "node" "article" "title" "" := by
  have built : sortedStore.Built := .insertField _ _ _ (.insertField _ _ _ (.insertField _ _ _
    (.insertField _ _ _ (.insertField _ _ _ (.insertField _ _ _ (.insertField _ _ _
      (.insertBundle _ _ (.insertEntityType _
        (.insertEntityType _ (.insertEntityType _ .empty))))))))))
  have hentries : ∀ e ∈ sortedStore.schema.entityTypes.entries, '.' ∉ e.1.toList ∧
      ∀ b ∈ sortedStore.schema.bundlesOf e.1, '.' ∉ b.id.toList ∧
        ((sortedStore.schema.fieldsOf e.1 b.id).map Field.name).Nodup := by decide
  have hknown {entityType : String} {b : Bundle}
      (hb : b ∈ sortedStore.schema.bundlesOf entityType) :
      ∃ e ∈ sortedStore.schema.entityTypes.entries, e.1 = entityType :=
        Schema.exists_of_mem_bundlesOf hb
  have pointFree : sortedStore.schema.PointFree := by
    refine ⟨fun h => (hentries _ (KeyMap.get?_eq_some_iff.1 h)).1, fun {_ b} hb => ?_⟩
    obtain ⟨e, he, rfl⟩ := hknown hb
    exact ((hentries e he).2 b hb).1
  have apart : sortedStore.schema.FieldsApart := by
    intro _ b hb
    obtain ⟨e, he, rfl⟩ := hknown hb
    exact ((hentries e he).2 b hb).2
  obtain ⟨hplaces, -, -, hlookup⟩ := derived_once_per_field built pointFree apart
  have hplace {names : String × String × String} {derived : List ProviderDefinition}
      (h : ∃ p ∈ sortedStore.schema.places, p.names = names ∧ p.derived?.toList = derived) :
      (builtin.definitions sortedStore.schema).filter (fun d => d.names == names) = derived := by
    obtain ⟨p, hp, rfl, rfl⟩ := h
    exact hplaces p hp
  refine ⟨built, pointFree, apart, hplace ?_, hplace ?_, (hlookup _ _).1.2 ?_,
    ((hlookup _ _).2 {}).2 ?_⟩
  · decide
  · decide
  · decide
  · decide

end Registry

end SynonymLookup
