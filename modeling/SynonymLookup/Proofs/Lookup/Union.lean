import SynonymLookup.Proofs.Lookup.ByName

/-! The synonyms of an entity: what the providers of its bundle extract, put together
in the order of the configurations' ids, each once. A configuration that no provider
is derived for adds nothing. -/

namespace SynonymLookup
namespace Lookup

open Service Repository

variable {s : Service} {e : Entity} {c : Configuration}

/-- What a configuration extracts from an entity, nothing if it has no provider. -/
def offered (s : Service) (e : Entity) (c : Configuration) : List String :=
  match c.provider s.registry s.schema with
  | .ok p => p.synonyms s.backend e
  | .error _ => []

/-- What is kept of a list stands in the order in which it comes up first. -/
theorem pairwise_idxOf_distinct (l : List String) :
    (distinct l).Pairwise fun name name' => l.idxOf name < l.idxOf name' := by
  have hordered : (firstsBy id [] l).Pairwise fun name name' =>
      (l.map id).idxOf (id name) < (l.map id).idxOf (id name') := pairwise_idxOf_firstsBy l
  rwa [List.map_id, ← distinct_eq_firstsBy] at hordered

theorem offered_of_underived (h : s.registry.definition? s.schema c.plugin = none) (e : Entity) :
    offered s e c = [] := by
  have hresolve : s.registry.resolve? s.schema c.plugin = none := by
    simpa [Registry.definition?] using h
  have hprovider : c.provider s.registry s.schema = .error (.unknownProvider c.plugin) := by
    simp only [Configuration.provider, Registry.create, hresolve]
    rfl
  simp only [offered, hprovider]

theorem ne_empty_of_mem_synonyms {plugin : String} {settings : ProviderConfiguration} {p : Provider}
    {schema : Schema} (h : Registry.builtin.create schema plugin settings = .ok p) {b : Backend}
    {name : String} (hname : name ∈ p.synonyms b e) : name ≠ "" := by
  obtain ⟨base, hbase, d, -, -, rfl⟩ := Registry.create_eq_ok h
  rcases Registry.mem_builtin.1 hbase with rfl | rfl | rfl
  · exact ne_empty_of_mem_propertyTexts hname
  · exact ne_empty_of_mem_propertyTexts hname
  · change name ∈ ReferenceProvider.synonyms d b e at hname
    rw [ReferenceProvider.synonyms] at hname
    split at hname
    · cases hname
    · simpa using (List.mem_filter.1 hname).2

/-- The synonyms of an entity, stored or not, are the union of what the configurations of its bundle
extract, each once and in the order in which it comes up first along the configurations by id.
Lookups of synonyms never fail where the settings can be read; a configuration whose definition has
gone adds nothing, and the built-in providers never give an empty text. -/
theorem entitySynonyms_union (readable : s.Readable) (own : s.OwnKeys) (e : Entity)
    (coherent : Coherent s e.entityType e.bundle) :
    ∃ names, ((entitySynonyms e).on s).1 = .ok names ∧ names.Nodup ∧
      (∀ name, name ∈ names ↔ ∃ c p, s.holds c.id c ∧ c.controls e.entityType e.bundle = true ∧
        c.provider s.registry s.schema = .ok p ∧ name ∈ p.synonyms s.backend e) ∧
      (∃ list : List Configuration,
        (∀ c, c ∈ list ↔ s.holds c.id c ∧ c.controls e.entityType e.bundle = true) ∧
        list.Pairwise (fun c c' => c.id < c'.id) ∧
        names.Pairwise fun name name' =>
          (list.flatMap (offered s e)).idxOf name < (list.flatMap (offered s e)).idxOf name') ∧
      (s.registry = Registry.builtin → "" ∉ names) ∧
      ∀ c, s.registry.definition? s.schema c.plugin = none → offered s e c = [] := by
  have hload := coherent.loadFor_fst readable
  have hmem (name : String) : name ∈ distinct (gathered s e (s.listed e.entityType e.bundle)) ↔
      ∃ c p, s.holds c.id c ∧ c.controls e.entityType e.bundle = true ∧
        c.provider s.registry s.schema = .ok p ∧ name ∈ p.synonyms s.backend e := by
    simp only [mem_distinct, mem_gathered_iff, mem_listed_iff own]
    exact ⟨fun ⟨c, ⟨hc, hcontrols⟩, p, hp, hname⟩ => ⟨c, p, hc, hcontrols, hp, hname⟩,
      fun ⟨c, p, hc, hcontrols, hp, hname⟩ => ⟨c, ⟨hc, hcontrols⟩, p, hp, hname⟩⟩
  refine ⟨distinct (gathered s e (s.listed e.entityType e.bundle)), ?_, ?_, hmem,
    ⟨s.listed e.entityType e.bundle, fun c => mem_listed_iff own,
      own.listed_sorted e.entityType e.bundle, ?_⟩, ?_, fun c h => offered_of_underived h e⟩
  · rw [entitySynonyms_of_loadFor (Step.on_eq_of_fst hload)]
  · have hnodup : ((firstsBy id [] (gathered s e (s.listed e.entityType e.bundle))).map id).Nodup :=
      nodup_firstsBy _
    rwa [distinct_eq_firstsBy, ← List.map_id (firstsBy _ _ _)]
  · exact pairwise_idxOf_distinct _
  · intro registry hempty
    obtain ⟨c, p, -, -, hp, hname⟩ := (hmem "").1 hempty
    rw [Configuration.provider, registry] at hp
    exact ne_empty_of_mem_synonyms hp hname rfl

def unitedService : Service := configuredNotices
  [{ id := "alias", plugin := "field:node.article.alias" },
    { id := "another", plugin := "field:node.article.alias" },
    { id := "gone", plugin := "field:node.article.summary" }]

theorem ownKeys_configuredNotices (list : List Configuration) :
    (configuredNotices list).OwnKeys := by
  have hfold (s : Service) (h : s.OwnKeys) : Service.OwnKeys
      { s with blobs := list.foldl (fun blobs c => blobs.insert c.key c.toJson) s.blobs } := by
    induction list generalizing s with
    | nil => exact h
    | cons c rest ih =>
      have hput : Service.OwnKeys { s with blobs := s.blobs.insert c.key c.toJson } :=
        (h.put c).congr (by simp [configurationBlobs])
      exact ih _ hput
  exact hfold { backend := { store := noticeStore "page" } } fun key j c hj => by cases hj

def draftedFox : Entity :=
  ({ entityType := "node", bundle := "article", id := ⟨"7"⟩ } : Entity).withValues "alias"
    [.string "Reynard", .string "", .string "Renard", .string "Reynard"]

theorem entitySynonyms_union_fox :
    unitedService.Readable ∧ unitedService.OwnKeys ∧ unitedService.cached = .empty ∧
    ∃ names, ((entitySynonyms draftedFox).on unitedService).1 = .ok names ∧
      names = ["Reynard", "Renard"] ∧ names.Nodup ∧ "" ∉ names := by
  have readable : unitedService.Readable := ⟨rfl, rfl, by unfold WellFormed; decide +kernel⟩
  have own : unitedService.OwnKeys := ownKeys_configuredNotices _
  obtain ⟨names, hnames, hnodup, -, -, hempty, -⟩ :=
    entitySynonyms_union readable own draftedFox (coherent_of_empty rfl)
  have hfound : ((entitySynonyms draftedFox).on unitedService).1 = .ok ["Reynard", "Renard"] := by
    decide +kernel
  have hsame : names = ["Reynard", "Renard"] := by
    rw [hfound] at hnames
    exact (Except.ok.inj hnames).symm
  exact ⟨readable, own, rfl, names, hnames, hsame, hnodup, hempty rfl⟩

end Lookup
end SynonymLookup
