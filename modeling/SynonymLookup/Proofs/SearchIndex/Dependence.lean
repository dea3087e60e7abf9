import SynonymLookup.Proofs.SearchIndex.Fragment

/-! What a fragment hangs on. Its tags name the entities that its host refers to and what is
configured for their bundles. Two things that no tag names count as well: which of the entities are
missing, and the labels that are read as synonyms of those that are there. -/

namespace SynonymLookup

namespace ReferenceProvider

def labelAt (s : Store) (targetType : String) (id : EntityId) : String :=
  ((s.load targetType id).map Entity.labelText).getD ""

theorem synonyms_eq_labels {b : Backend} {d : ProviderDefinition} {target : String}
    (built : b.store.Built) (up : b.InService) (htarget : targetType? b d = some target)
    (e : Entity) :
    synonyms d b e = ((e.referencedIds d.field).map (labelAt b.store target)).filter fun l =>
      !l.isEmpty := by
  rw [synonyms_eq built up htarget]
  induction e.referencedIds d.field with
  | nil => rfl
  | cons id rest ih =>
    rw [List.filterMap_cons, List.map_cons, List.filter_cons, labelAt]
    cases b.store.load target id with
    | none => exact ih
    | some x =>
      rw [List.map_cons, List.filter_cons, ih]
      rfl

end ReferenceProvider

namespace SearchIndex

open Service Repository ReferenceProvider

/-- The synonyms of an entity are read off the label of an id: one of its configurations takes the
labels of a field in which the entity refers to the id. -/
def ReadsLabel (s : Service) (e : Entity) (targetType : String) (id : EntityId) : Prop :=
  ∃ c ∈ s.configurationsOf e.entityType e.bundle, ∃ d : ProviderDefinition,
    c.provider s.registry s.schema = .ok (ReferenceProvider.create s.schema d c.settings) ∧
      (d.field? s.schema).bind (·.targetType) = some targetType ∧ id ∈ e.referencedIds d.field

/-- What the tags of a fragment name is the same: the entities that are stored under them, and
whether search is on and what is configured for the bundles. -/
structure SameTagged (tags : List String) (s s' : Service) : Prop where
  entity : ∀ {entityType id e}, s.store.load entityType id = some e → e.cacheTag ∈ tags →
    s'.store.load entityType id = some e
  setting : ∀ {entityType bundle}, bundleTag entityType bundle ∈ tags →
    s'.blobs.get? (Behavior.settingKey Behavior.search.id entityType bundle) =
      s.blobs.get? (Behavior.settingKey Behavior.search.id entityType bundle)
  configurations : ∀ {entityType bundle}, bundleTag entityType bundle ∈ tags →
    s'.configurationsOf entityType bundle = s.configurationsOf entityType bundle

/-- What no tag of the fragment names is the same too: the entities that are missing, and the
labels that are read as synonyms. -/
structure SameUntagged (host : Entity) (s s' : Service) : Prop where
  missing : ∀ {targetType id}, Refers s.schema host targetType id →
    s.store.load targetType id = none → s'.store.load targetType id = none
  label : ∀ {e targetType id}, e ∈ targets s.store host →
    Behaviors.isOn s Behavior.search.id e.entityType e.bundle = true →
    ReadsLabel s e targetType id → labelAt s'.store targetType id = labelAt s.store targetType id

variable {s s' : Service} {host : Entity}

/-- A host refers to the same stored entities, if those are the same and the missing ones are. -/
theorem targets_congr (schema : s'.schema = s.schema)
    (same : ∀ {targetType id}, Refers s.schema host targetType id →
      s'.store.load targetType id = s.store.load targetType id) :
    targets s'.store host = targets s.store host := by
  have hschema : s'.store.schema = s.store.schema := schema
  rw [targets, targets, hschema]
  refine List.flatMap_congr fun f hf => ?_
  rw [targetsThrough, targetsThrough, hschema]
  cases htarget : contentTarget? s.store.schema f with
  | none => rfl
  | some targetType =>
    exact List.filterMap_congr fun id hid => same ⟨f, hf, htarget, (Lookup.mem_distinct _ _).1 hid⟩

section States

variable (registry : s.registry = Registry.builtin) (registry' : s'.registry = Registry.builtin)
  (built : s.store.Built) (built' : s'.store.Built)
  (up : s.backend.InService) (up' : s'.backend.InService) (schema : s'.schema = s.schema)
include registry registry' built built' up up' schema

/-- The synonyms of an entity hang on its configurations, and on the labels that are read. -/
theorem gathered_eq_of_labels {e : Entity}
    (configurations : s'.configurationsOf e.entityType e.bundle =
      s.configurationsOf e.entityType e.bundle)
    (label : ∀ {targetType id}, ReadsLabel s e targetType id →
      labelAt s'.store targetType id = labelAt s.store targetType id) :
    Lookup.gathered s' e (s'.configurationsOf e.entityType e.bundle) =
      Lookup.gathered s e (s.configurationsOf e.entityType e.bundle) := by
  rw [configurations]
  refine List.flatMap_congr fun c hc => ?_
  rw [registry', registry, schema]
  cases hp : c.provider Registry.builtin s.schema with
  | error _ => rfl
  | ok p =>
    have hcreate : Registry.builtin.create s.schema c.plugin c.settings = .ok p := hp
    obtain ⟨base, hbase, d, -, -, rfl⟩ := Registry.create_eq_ok hcreate
    rcases Registry.mem_builtin.1 hbase with rfl | rfl | rfl
    · rfl
    · rfl
    · show synonyms d s'.backend e = synonyms d s.backend e
      have hschema : s'.backend.schema = s.backend.schema := schema
      cases htarget : targetType? s.backend d with
      | none =>
        have htarget' : targetType? s'.backend d = none := by
          rw [targetType?, hschema]; exact htarget
        rw [synonyms, synonyms, htarget, htarget']
      | some target =>
        have htarget' : targetType? s'.backend d = some target := by
          rw [targetType?, hschema]; exact htarget
        rw [synonyms_eq_labels built' up' htarget', synonyms_eq_labels built up htarget]
        refine congrArg _ (List.map_congr_left fun id hid => ?_)
        exact label ⟨c, hc, d, by rw [registry]; exact hp, htarget, hid⟩

/-- Fragments are equal in states that agree in what the tags of the first name, in which of the
entities are missing and in the labels that are read. -/
theorem fragment_eq_of_same {fragment fragment' : IndexFragment}
    (h : ((SearchIndex.fragment host).on s).1 = .ok fragment)
    (h' : ((SearchIndex.fragment host).on s').1 = .ok fragment')
    (tagged : SameTagged fragment.cacheTags s s') (untagged : SameUntagged host s s') :
    fragment' = fragment := by
  have htags {e : Entity} (he : e ∈ targets s.store host) :
      e.cacheTag ∈ fragment.cacheTags ∧ bundleTag e.entityType e.bundle ∈ fragment.cacheTags := by
    rw [eq_of_fragment registry built up.hidden h]
    exact ⟨(Lookup.mem_distinct _ _).2 (List.mem_flatMap.2 ⟨e, he, mem_tagsOf.2 (.inl rfl)⟩),
      (Lookup.mem_distinct _ _).2 (List.mem_flatMap.2 ⟨e, he, mem_tagsOf.2 (.inr rfl)⟩)⟩
  have htargets : targets s'.store host = targets s.store host := by
    refine targets_congr schema fun {targetType id} hrefers => ?_
    cases hload : s.store.load targetType id with
    | none => exact untagged.missing hrefers hload
    | some e => exact tagged.entity hload (htags (mem_targets_iff.2 ⟨_, _, hrefers, hload⟩)).1
  have hcontribution {e : Entity} (he : e ∈ targets s.store host) :
      contribution s' e = contribution s e := by
    have hbundle := (htags he).2
    have hon : Behaviors.isOn s' Behavior.search.id e.entityType e.bundle =
        Behaviors.isOn s Behavior.search.id e.entityType e.bundle := by
      rw [Behaviors.isOn, Behaviors.isOn, tagged.setting hbundle]
    rw [contribution, contribution, hon]
    by_cases hsearched : Behaviors.isOn s Behavior.search.id e.entityType e.bundle = true
    · rw [if_pos hsearched, if_pos hsearched,
        gathered_eq_of_labels registry registry' built built' up up'
        schema (tagged.configurations hbundle) (untagged.label he hsearched)]
    · rw [if_neg hsearched, if_neg hsearched]
  rw [eq_of_fragment registry built up.hidden h, eq_of_fragment registry' built' up'.hidden h',
    htargets, List.flatMap_congr fun e he => hcontribution he]

end States

def tagged : Entity :=
  { entityType := "node", bundle := "article", id := ⟨"1"⟩ : Entity }.withReferences "tags" [⟨"10"⟩]

def authored : Entity :=
  { entityType := "term", bundle := "tags", id := ⟨"10"⟩ : Entity }.withReferences "author" [⟨"2"⟩]

def author (name : String) : Entity :=
  { entityType := "user", bundle := "user", id := ⟨"2"⟩, label := some name }

def taggedStore : Store :=
  let node : EntityType :=
    { id := "node", keys := { bundle := some "type", label := some "title" } }
  let term : EntityType := { id := "term", keys := { bundle := some "vid", label := some "name" } }
  let user : EntityType := { id := "user", keys := { label := some "name" } }
  ((((((({} : Store).mapSchema (·.insertEntityType node)).mapSchema
    (·.insertEntityType term)).mapSchema
    (·.insertEntityType user)).mapSchema
    (·.insertBundle "node" ⟨"article", "Article"⟩)).mapSchema
    (·.insertBundle "term" ⟨"tags", "Tags"⟩)).mapSchema
    (·.insertField "node" "article" (.reference "tags" "Tags" "term"))).mapSchema
    (·.insertField "term" "tags" (.reference "author" "Author" "user")) |>.insertEntity tagged

theorem built_taggedStore : taggedStore.Built :=
  .insertEntity _ (.insertField _ _ _ (.insertField _ _ _ (.insertBundle _ _ (.insertBundle _ _
    (.insertEntityType _ (.insertEntityType _ (.insertEntityType _ .empty)))))))

/-- Search is on for terms, and the labels of their authors are configured as synonyms. -/
def searching (store : Store) : Service :=
  let c : Configuration := { id := "author", plugin := "entity_reference:term.tags.author" }
  let setting : BehaviorSetting := { status := true }
  { backend := { store }
    blobs := (KeyMap.empty.insert c.key c.toJson).insert
      (Behavior.settingKey Behavior.search.id "term" "tags") setting.toJson }

def authoredStore (e : Entity) : Store :=
  (taggedStore.insertEntity authored).insertEntity e

theorem built_authoredStore (e : Entity) : (authoredStore e).Built :=
  .insertEntity _ (.insertEntity _ built_taggedStore)

theorem sameTagged_searching {tags : List String} {store store' : Store}
    (entity : ∀ {entityType id e}, store.load entityType id = some e → e.cacheTag ∈ tags →
      store'.load entityType id = some e) :
        SameTagged tags (searching store) (searching store') where
  entity := entity
  setting _ := rfl
  configurations _ := congrArg (fun answer => answer.toOption.getD []) (loadFor_congr rfl rfl rfl)

section Replaced

variable {store : Store} {e e' : Entity} (htype : e'.entityType = e.entityType) (hid : e'.id = e.id)
include htype hid

theorem sameTagged_insertEntity {tags : List String} (htags : e.cacheTag ∉ tags) :
    SameTagged tags (searching (store.insertEntity e)) (searching (store.insertEntity e')) := by
  refine sameTagged_searching fun {entityType id x} hload htag => ?_
  rw [Store.load_insertEntity] at hload ⊢
  rw [htype, hid]
  split at hload
  · cases hload
    exact absurd htag htags
  · rename_i hother
    rw [if_neg hother, hload]

theorem sameUntagged_insertEntity {host : Entity} (hlabel : e'.labelText = e.labelText) :
    SameUntagged host (searching (store.insertEntity e)) (searching (store.insertEntity e')) := by
  have hload (targetType : String) (id : EntityId) :
      ((store.insertEntity e').load targetType id).map Entity.labelText =
        ((store.insertEntity e).load targetType id).map Entity.labelText := by
    rw [Store.load_insertEntity, Store.load_insertEntity, htype, hid]
    split
    · exact congrArg some hlabel
    · rfl
  refine ⟨fun {targetType id} _ hnone => ?_, fun {_ targetType id} _ _ _ => ?_⟩
  · exact Option.map_eq_none_iff.1 ((hload targetType id).trans (Option.map_eq_none_iff.2 hnone))
  · exact congrArg (Option.getD · "") (hload targetType id)

end Replaced

theorem cacheTag_author_notMem (name : String) :
    (author name).cacheTag ∉ ["term:10", "synonyms:term.tags"] := by
  show "user" ++ ":" ++ "2" ∉ ["term:10", "synonyms:term.tags"]
  decide +kernel

/-- The author has a second field in the second state, and the same name. -/
theorem fragment_eq_of_same_author :
    let edited := (author "Ann").withReferences "editor" [⟨"3"⟩]
    let s := searching (authoredStore (author "Ann"))
    let s' := searching (authoredStore edited)
    SameTagged ["term:10", "synonyms:term.tags"] s s' ∧ SameUntagged tagged s s' ∧
      ((fragment tagged).on s').1 = ((fragment tagged).on s).1 := by
  intro edited s s'
  have same : SameTagged ["term:10", "synonyms:term.tags"] s s' := by
    refine sameTagged_insertEntity ?_ ?_ (cacheTag_author_notMem "Ann") <;> rfl
  have untagged : SameUntagged tagged s s' := by
    refine sameUntagged_insertEntity ?_ ?_ ?_ <;> rfl
  have h : ((fragment tagged).on s).1 = .ok ⟨"Ann", ["term:10", "synonyms:term.tags"]⟩ := by
    decide +kernel
  have h' : ((fragment tagged).on s').1 = .ok ⟨"Ann", ["term:10", "synonyms:term.tags"]⟩ := by
    decide +kernel
  have registry : s.registry = Registry.builtin := rfl
  have registry' : s'.registry = Registry.builtin := rfl
  have built : s.store.Built := built_authoredStore _
  have built' : s'.store.Built := built_authoredStore _
  have up : s.backend.InService := Backend.inService_of_store _
  have up' : s'.backend.InService := Backend.inService_of_store _
  have schema : s'.schema = s.schema := rfl
  have heq := fragment_eq_of_same registry registry' built built' up up' schema h h' same untagged
  exact ⟨same, untagged, h'.trans ((congrArg Except.ok heq).trans h.symm)⟩

/-- The name that the author goes by is in the text, and no tag of the fragment names the author.
And the tag of a term that is missing is in no fragment, whose text changes when it is there. -/
theorem text_changed_under_same_tags :
    let s := searching (authoredStore (author "Ann"))
    let s' := searching (authoredStore (author "Bob"))
    let missing := searching taggedStore
    let tags := ["term:10", "synonyms:term.tags"]
    (s'.schema = s.schema ∧ s'.blobs = s.blobs ∧ SameTagged tags s s' ∧ SameTagged tags s' s ∧
      ((fragment tagged).on s).1 = .ok ⟨"Ann", tags⟩ ∧
      ((fragment tagged).on s').1 = .ok ⟨"Bob", tags⟩) ∧
    (s.schema = missing.schema ∧ s.blobs = missing.blobs ∧ SameTagged [] missing s ∧
      SameTagged [] s missing ∧ ((fragment tagged).on missing).1 = .ok ⟨"", []⟩) := by
  intro s s' missing tags
  refine ⟨⟨rfl, rfl, ?_, ?_, ?_, ?_⟩, rfl, rfl, ?_, ?_, ?_⟩
  · refine sameTagged_insertEntity ?_ ?_ (cacheTag_author_notMem "Ann") <;> rfl
  · refine sameTagged_insertEntity ?_ ?_ (cacheTag_author_notMem "Bob") <;> rfl
  · decide +kernel
  · decide +kernel
  · exact sameTagged_searching fun _ htag => absurd htag List.not_mem_nil
  · exact sameTagged_searching fun _ htag => absurd htag List.not_mem_nil
  · decide +kernel

end SearchIndex
end SynonymLookup
