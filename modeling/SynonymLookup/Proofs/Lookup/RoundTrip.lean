import SynonymLookup.Proofs.Lookup.FanOut

/-! Extraction and search as inverse to one another: a search for a name finds an entity with
exactly those of its synonyms that are the name, without regard to case. -/

namespace SynonymLookup
namespace Lookup

open Service Repository

variable {s s' s₁ : Service} {entityType bundle : String} {list : List Configuration}

theorem loadFor_again (h : (loadFor entityType bundle).on s = (.ok list, s₁)) :
    s₁.backend = s.backend ∧ s₁.registry = s.registry ∧
      (loadFor entityType bundle).on s₁ = (.ok list, s₁) := by
  have hagain : (loadFor entityType bundle).on s₁ = (.ok list, s₁) := by
    rw [loadFor_on, cached_of_loadFor h]
  rcases loadFor_eq_ok h with ⟨-, rfl⟩ | ⟨-, rfl⟩
  · exact ⟨rfl, rfl, hagain⟩
  · exact ⟨rfl, rfl, hagain⟩

theorem gathered_congr {e : Entity} (hbackend : s'.backend = s.backend)
    (hregistry : s'.registry = s.registry) : gathered s' e list = gathered s e list := by
  unfold gathered Service.schema
  rw [hbackend, hregistry]

theorem found_congr {condition : Condition} (hbackend : s'.backend = s.backend)
    (hregistry : s'.registry = s.registry) : s'.found condition = s.found condition := by
  funext c
  unfold Service.found Service.schema Service.store
  rw [hbackend, hregistry]

theorem entitySynonyms_of_loadFor {e : Entity}
    (h : (loadFor e.entityType e.bundle).on s = (.ok list, s₁)) :
    (entitySynonyms e).on s = (.ok (distinct (gathered s e list)), s₁) := by
  obtain ⟨hbackend, hregistry, -⟩ := loadFor_again h
  unfold entitySynonyms
  rw [Step.on_bind_ok h, Step.on_bind_ok (Step.on_get s₁), gathered_congr hbackend hregistry]
  rfl

theorem entitySynonyms_on {e : Entity} {names : List String}
    (h : (entitySynonyms e).on s = (.ok names, s₁)) :
    ∃ list, (loadFor e.entityType e.bundle).on s = (.ok list, s₁) ∧
      names = distinct (gathered s e list) := by
  rcases hload : (loadFor e.entityType e.bundle).on s with ⟨_ | list, t⟩
  · unfold entitySynonyms at h
    rw [Step.on_bind_error hload] at h
    cases h
  · rw [entitySynonyms_of_loadFor hload] at h
    cases h
    exact ⟨list, rfl, rfl⟩

theorem findSynonyms_on (h : s.Searchable) {condition : Condition} (hc : condition.Askable)
    (hknown : (s.schema.entityType? entityType).isSome)
    (hload : (loadFor entityType bundle).on s = (.ok list, s₁)) :
    ∃ s₂, Counts s₁ s₂ ∧ (findSynonyms condition entityType (some bundle)).on s =
      (.ok (list.flatMap (s.found condition)), s₂) := by
  obtain ⟨t, ht⟩ := Option.isSome_iff_exists.1 hknown
  have htype : (Service.entityType entityType).on s = (.ok t, s) := by
    unfold Service.entityType
    rw [Step.on_bind_ok (Step.on_get s), ht]
    rfl
  have hone : (loadForEach entityType [bundle]).on s = (.ok list, s₁) := by
    unfold loadForEach
    rw [Step.on_bind_ok hload]
    have hnil : (loadForEach entityType []).on s₁ = (.ok [], s₁) := rfl
    rw [Step.on_bind_ok hnil, List.append_nil]
    rfl
  obtain ⟨hbackend, hregistry, -⟩ := loadFor_again hload
  obtain ⟨s₂, hcounts, heach⟩ := findInEach_on hc list (h.of_eq hbackend hregistry)
  have hfound : s₁.found condition = s.found condition := found_congr hbackend hregistry
  refine ⟨s₂, hcounts, ?_⟩
  unfold findSynonyms
  rw [Step.on_bind_ok htype, Step.on_bind_ok (Step.on_get s)]
  dsimp only
  rw [Step.on_bind_ok hone, Step.on_bind_ok heach, Step.on_ofExcept, hfound]
  have hmap : (list.map fun c => (Except.ok (s.found condition c) : Except LookupError _)) =
      (list.map (s.found condition)).map Except.ok := by rw [List.map_map]; rfl
  rw [hmap, joined_ok, List.flatMap_def]

/-- What a configuration of a bundle contributes to a search for a name: the synonyms of that name,
of entities that the bundle covers. -/
theorem mem_found_iff (h : s.Searchable) {t : EntityType}
    (hknown : s.schema.entityType? entityType = some t) {c : Configuration}
    (hcontrols : c.controls entityType bundle = true) {name : String} (hname : name ≠ "")
    {id : EntityId} {text : String} :
    ⟨id, text⟩ ∈ s.found (Condition.onSynonym .equal (.string name)) c ↔
      ∃ p e, c.provider s.registry s.schema = .ok p ∧ s.store.load entityType id = some e ∧
        (t.keys.bundle = none ∨ Text.sameIgnoringCase e.bundle bundle = true) ∧
        text ∈ p.synonyms s.backend e ∧ Text.sameIgnoringCase text name = true := by
  unfold Service.found
  cases hp : c.provider s.registry s.schema with
  | error e => simp
  | ok p =>
    have hmade := hp
    unfold Configuration.provider at hmade
    rw [h.registry] at hmade
    obtain ⟨t', hsearches⟩ := h.plain.searches_create h.built h.up hmade
    obtain ⟨q, hq, hqtype, hqbundle⟩ := hsearches.parsed
    obtain ⟨q', hq', htype, hbundle⟩ := Configuration.controls_iff.1 hcontrols
    unfold Configuration.pluginId? at hq'
    rw [hq, Option.some.injEq] at hq'
    subst hq'
    rw [htype] at hqtype
    rw [hbundle] at hqbundle
    have hknown' : s.schema.entityType? p.definition.entityType = some t := by
      rw [← hqtype, hknown]
    have consistent : s.store.Consistent := h.built.consistent
    simp only [hknown']
    rw [ProviderDefinition.mem_matching_iff consistent, ← hqtype]
    simp only [ProviderDefinition.covers, Bool.or_eq_true, Option.isNone_iff_eq_none, ← hqbundle,
      Condition.meetsFor_onSynonym hname, Except.ok.injEq]
    constructor
    · rintro ⟨e, he, hcovers, htext, hsame⟩
      exact ⟨p, e, rfl, he, hcovers, htext, hsame⟩
    · rintro ⟨p', e, rfl, he, hcovers, htext, hsame⟩
      exact ⟨e, he, hcovers, htext, hsame⟩

theorem mem_gathered_iff {e : Entity} {text : String} :
    text ∈ gathered s e list ↔
      ∃ c ∈ list, ∃ p, c.provider s.registry s.schema = .ok p ∧ text ∈ p.synonyms s.backend e := by
  unfold gathered
  rw [List.mem_flatMap]
  refine exists_congr fun c => and_congr_right fun _ => ?_
  cases c.provider s.registry s.schema with
  | error e => simp
  | ok p => simp

theorem mem_flatMap_found_iff (h : s.Searchable) {t : EntityType}
    (hknown : s.schema.entityType? entityType = some t)
    (hcontrols : ∀ c ∈ list, c.controls entityType bundle = true) {name : String}
    (hname : name ≠ "") {id : EntityId} {text : String} :
    ⟨id, text⟩ ∈ list.flatMap (s.found (Condition.onSynonym .equal (.string name))) ↔
      ∃ e, s.store.load entityType id = some e ∧
        (t.keys.bundle = none ∨ Text.sameIgnoringCase e.bundle bundle = true) ∧
        text ∈ gathered s e list ∧ Text.sameIgnoringCase text name = true := by
  rw [List.mem_flatMap]
  constructor
  · rintro ⟨c, hc, hfound⟩
    obtain ⟨p, e, hp, he, hcovers, htext, hsame⟩ :=
      (mem_found_iff h hknown (hcontrols c hc) hname).1 hfound
    exact ⟨e, he, hcovers, mem_gathered_iff.2 ⟨c, hc, p, hp, htext⟩, hsame⟩
  · rintro ⟨e, he, hcovers, htext, hsame⟩
    obtain ⟨c, hc, p, hp, htext⟩ := mem_gathered_iff.1 htext
    have hfound := (mem_found_iff h hknown (hcontrols c hc) hname).2
      ⟨p, e, hp, he, hcovers, htext, hsame⟩
    exact ⟨c, hc, hfound⟩

/-- Entities that a bundle covers are of the bundle, where no two bundles differ in case only. -/
structure BundlesApart (s : Service) : Prop where
  case : ∀ {entityType id id' e e'}, s.store.load entityType id = some e →
    s.store.load entityType id' = some e' → Text.lowercase e.bundle = Text.lowercase e'.bundle →
      e.bundle = e'.bundle
  bundleless : ∀ {entityType t id e}, s.schema.entityType? entityType = some t →
    t.keys.bundle = none → s.store.load entityType id = some e → e.bundle = entityType

theorem BundlesApart.bundle_eq (h : BundlesApart s) {t : EntityType}
    (hknown : s.schema.entityType? entityType = some t) {id id' : EntityId} {e e' : Entity}
    (he : s.store.load entityType id = some e) (he' : s.store.load entityType id' = some e')
    (hcovers : t.keys.bundle = none ∨ Text.sameIgnoringCase e'.bundle e.bundle = true) :
    e'.bundle = e.bundle := by
  rcases hcovers with hnone | hsame
  · rw [h.bundleless hknown hnone he, h.bundleless hknown hnone he']
  · exact h.case he' he (Text.sameIgnoringCase_iff.1 hsame)

theorem loadFor_counts (h : (loadFor entityType bundle).on s = (.ok list, s₁))
    (hcounts : Counts s₁ s') : (loadFor entityType bundle).on s' = (.ok list, s') := by
  rw [loadFor_on, hcounts.unchanged.1, cached_of_loadFor h]

/-- Neither call changes what the other answers. -/
theorem calls_apart (h : s.Searchable) {condition : Condition} (hc : condition.Askable)
    (hknown : (s.schema.entityType? entityType).isSome) {e : Entity}
    (he : e.entityType = entityType) (hload : (loadFor entityType e.bundle).on s = (.ok list, s₁)) :
    let find := findSynonyms condition entityType (some e.bundle)
    (find.on s).1 = .ok (list.flatMap (s.found condition)) ∧
    (find.on s₁).1 = .ok (list.flatMap (s.found condition)) ∧
    ((entitySynonyms e).on (find.on s).2).1 = .ok (distinct (gathered s e list)) := by
  obtain ⟨hbackend, hregistry, hagain⟩ := loadFor_again hload
  have h₁ : s₁.Searchable := h.of_eq hbackend hregistry
  have hknown₁ : (s₁.schema.entityType? entityType).isSome := by
    unfold Service.schema
    rw [hbackend]
    exact hknown
  obtain ⟨s₂, hcounts, hfind⟩ := findSynonyms_on h hc hknown hload
  obtain ⟨s₃, -, hfind₁⟩ := findSynonyms_on h₁ hc hknown₁ hagain
  intro find
  refine ⟨by rw [hfind], by rw [hfind₁, found_congr hbackend hregistry], ?_⟩
  have hload₂ := loadFor_counts hload hcounts
  rw [← he] at hload₂
  rw [hfind, entitySynonyms_of_loadFor hload₂, gathered_counts h₁ hcounts,
    gathered_congr hbackend hregistry]

/-- A search for a name in the bundle of a stored entity finds exactly those synonyms of the entity
that are the name but for case, and nothing of another bundle. Neither call changes what the other
answers, and it does not matter what was cached before. -/
theorem mem_findSynonyms_iff (used : Used s) (h : s.Searchable) (apart : BundlesApart s)
    {t : EntityType} (hknown : s.schema.entityType? entityType = some t)
    {id : EntityId} {e : Entity} (he : s.store.load entityType id = some e) {name : String}
    (hname : name ≠ "")
    {names : List String} (hget : (entitySynonyms e).on s = (.ok names, s₁)) :
    let find := findSynonyms (Condition.onSynonym .equal (.string name)) entityType (some e.bundle)
    ∃ found, (find.on s).1 = .ok found ∧ (find.on s₁).1 = .ok found ∧
      ((entitySynonyms e).on (find.on s).2).1 = .ok names ∧
      (∀ text, ⟨e.id, text⟩ ∈ found ↔ text ∈ names ∧ Text.lowercase text = Text.lowercase name) ∧
      ∀ r ∈ found, ∃ e', s.store.load entityType r.entityId = some e' ∧ e'.bundle = e.bundle := by
  have consistent : s.store.Consistent := h.built.consistent
  obtain ⟨hetype, heid⟩ := consistent.id_of_load he
  have hstored : s.store.load entityType e.id = some e := by rw [heid, he]
  obtain ⟨list, hload, rfl⟩ := entitySynonyms_on hget
  rw [hetype] at hload
  have hcontrols := controls_of_loadFor used.cachedControl hload
  have hisSome : (s.schema.entityType? entityType).isSome := by rw [hknown]; rfl
  obtain ⟨hfind, hfind₁, hget₂⟩ :=
    calls_apart h (Condition.askable_onSynonym name) hisSome hetype hload
  intro find
  refine ⟨_, hfind, hfind₁, hget₂, fun text => ?_, fun r hr => ?_⟩
  · rw [mem_flatMap_found_iff h hknown hcontrols hname, mem_distinct, ← Text.sameIgnoringCase_iff]
    constructor
    · rintro ⟨e', he', -, htext, hsame⟩
      rw [hstored, Option.some.injEq] at he'
      subst he'
      exact ⟨htext, hsame⟩
    · rintro ⟨htext, hsame⟩
      exact ⟨e, hstored, .inr (Text.sameIgnoringCase_iff.2 rfl), htext, hsame⟩
  · obtain ⟨e', he', hcovers, -, -⟩ := (mem_flatMap_found_iff h hknown hcontrols hname).1 hr
    exact ⟨e', he', apart.bundle_eq hknown he he' hcovers⟩

def authorService : Service :=
  let c : Configuration := { id := "author", plugin := "entity_reference:node.page.author" }
  { backend := { store := ReferenceProvider.authorStore "user" }
    blobs := KeyMap.empty.insert c.key c.toJson }

theorem field_author {entityType bundle : String} {f : Field}
    (h : f ∈ authorService.schema.fieldsOf entityType bundle) :
    f = .reference "author" "Author" "user" := by
  have hbundles : ∀ e ∈ authorService.schema.bundleFields.entries, ∀ own ∈ e.2.entries, ∀ f ∈ own.2,
      f = .reference "author" "Author" "user" := by decide
  rcases Schema.mem_fieldsOf h with ⟨e, he, -⟩ | ⟨e, he, -, own, hown, -, hf⟩
  · cases he
  · exact hbundles e he own hown f hf

theorem plain_author : authorService.schema.Plain := by
  have hentry : ∀ {id t}, authorService.schema.entityType? id = some t →
      (id, t) ∈ authorService.schema.entityTypes.entries := KeyMap.get?_eq_some_iff.1
  have hnames : ∀ e ∈ authorService.schema.entityTypes.entries, (e.1 ≠ "" ∧ '.' ∉ e.1.toList) ∧
      (∀ b ∈ authorService.schema.bundlesOf e.1, b.id ≠ "" ∧ '.' ∉ b.id.toList) ∧
      (∀ key ∈ e.2.keys.id :: (e.2.keys.bundle.toList ++ e.2.labelColumn.toList),
        '.' ∉ key.toList) ∧
      e.2.keys.bundle ≠ some e.2.keys.id ∧
      ∀ label ∈ e.2.labelColumn, label ≠ e.2.keys.id ∧ e.2.keys.bundle ≠ some label := by decide
  refine { entityType := fun h => (hnames _ (hentry h)).1, bundle := ?_, field := ?_, key := ?_,
           bundle_ne_id := fun h => (hnames _ (hentry h)).2.2.2.1,
           label_ne := fun h hl => (hnames _ (hentry h)).2.2.2.2 _ hl,
           same_target := ?_, labelled := ?_ }
  · intro entityType b hb
    cases ht : authorService.schema.entityType? entityType with
    | none => simp [Schema.bundlesOf, ht] at hb
    | some t => exact (hnames _ (hentry ht)).2.1 b hb
  · intro entityType bundle f hf
    rw [field_author hf]
    decide
  · intro id t key ht hkey
    refine (hnames _ (hentry ht)).2.2.1 key ?_
    simp only [EntityType.isKey, Bool.or_eq_true, beq_iff_eq] at hkey
    rcases hkey with (hid | hbundle) | hlabel
    · simp [hid]
    · simp [hbundle]
    · simp [hlabel]
  · intro entityType bundle bundle' f f' hf hf' _
    rw [field_author hf, field_author hf']
  · intro entityType bundle f hf _
    rw [field_author hf]
    exact ⟨"user", _, "name", rfl, rfl, rfl⟩

theorem searchable_author : authorService.Searchable where
  registry := rfl
  built := ReferenceProvider.built_authorStore "user"
  up := Backend.inService_of_store _
  plain := plain_author

theorem bundlesApart_author : BundlesApart authorService := by
  have hentities : ∀ x ∈ authorService.store.entities.entries, ∀ e ∈ x.2.entries,
      e.2.bundle = if x.1 = "node" then "page" else x.1 := by decide
  have hbundle : ∀ {entityType id e}, authorService.store.load entityType id = some e →
      e.bundle = if entityType = "node" then "page" else entityType := by
    intro entityType id e he
    unfold Store.load Store.entitiesOf at he
    cases hm : authorService.store.entities.get? entityType with
    | none =>
      rw [hm] at he
      cases he
    | some m =>
      rw [hm, Option.getD_some] at he
      exact hentities _ (KeyMap.get?_eq_some_iff.1 hm) _ (KeyMap.get?_eq_some_iff.1 he)
  constructor
  · intro entityType id id' e e' he he' _
    rw [hbundle he, hbundle he']
  · intro entityType t id e ht hnone he
    have hnode : ∀ x ∈ authorService.schema.entityTypes.entries, x.2.keys.bundle = none →
        x.1 ≠ "node" := by decide
    rw [hbundle he, if_neg (hnode _ (KeyMap.get?_eq_some_iff.1 ht) hnone)]

theorem mem_findSynonyms_iff_author :
    Used authorService ∧ authorService.Searchable ∧ BundlesApart authorService ∧
    ((entitySynonyms ReferenceProvider.authoredPage).on authorService).1 = .ok ["Ann"] ∧
    ∃ found, ((findSynonyms (Condition.onSynonym .equal (.string "ANN")) "node"
      (some "page")).on authorService).1 = .ok found ∧
      ∀ text, ⟨⟨"1"⟩, text⟩ ∈ found ↔ text = "Ann" := by
  have hnames : ((entitySynonyms ReferenceProvider.authoredPage).on authorService).1 =
      .ok ["Ann"] := by decide +kernel
  have used : Used authorService := .fresh rfl
  have hknown : authorService.schema.entityType? "node" =
      some { id := "node", keys := { bundle := some "type", label := some "title" } } := rfl
  have hload : authorService.store.load "node" ⟨"1"⟩ = some ReferenceProvider.authoredPage := rfl
  have hname : "ANN" ≠ "" := by decide
  have hget : (entitySynonyms ReferenceProvider.authoredPage).on authorService =
      (.ok ["Ann"], ((entitySynonyms ReferenceProvider.authoredPage).on authorService).2) :=
    Prod.ext hnames rfl
  refine ⟨used, searchable_author, bundlesApart_author, hnames, ?_⟩
  obtain ⟨found, hfind, -, -, hiff, -⟩ := mem_findSynonyms_iff used searchable_author
    bundlesApart_author hknown hload hname hget
  refine ⟨found, hfind, fun text => ?_⟩
  rw [show (⟨"1"⟩ : EntityId) = ReferenceProvider.authoredPage.id from rfl, hiff]
  constructor
  · rintro ⟨hmem, -⟩
    simpa using hmem
  · rintro rfl
    exact ⟨by simp, by decide⟩

end Lookup
end SynonymLookup
