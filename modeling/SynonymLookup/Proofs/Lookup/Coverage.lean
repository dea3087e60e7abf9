import SynonymLookup.Proofs.Lookup.Isolation

/-! A search over all bundles of a type asks every configuration of the type once. The
bundles come from the schema and the configurations of each from their plugin ids, so no
configuration is asked twice, and one that no bundle of the schema has is bound to a field
that is not there either: it finds nothing. -/

namespace SynonymLookup

theorem flatMap_filter_perm {α κ : Type} {p : κ → α → Bool} {keys : List κ} (hkeys : keys.Nodup)
    (apart : ∀ a k k', p k a = true → p k' a = true → k = k') (l : List α) :
    (keys.flatMap fun k => l.filter (p k)).Perm (l.filter fun a => keys.any fun k => p k a) := by
  induction keys with
  | nil => simp
  | cons k rest ih =>
    have ⟨hnew, hrest⟩ := List.nodup_cons.1 hkeys
    have hown : (l.filter fun a => (k :: rest).any fun k => p k a).filter (p k) =
        l.filter (p k) := by
      rw [List.filter_filter]
      refine List.filter_congr fun a _ => ?_
      by_cases hk : p k a = true <;> simp [hk]
    have hothers : (l.filter fun a => (k :: rest).any fun k => p k a).filter (fun a => !p k a) =
        l.filter fun a => rest.any fun k => p k a := by
      rw [List.filter_filter]
      refine List.filter_congr fun a _ => ?_
      by_cases hk : p k a = true
      · have hnone : rest.any (fun k => p k a) = false := by
          rw [List.any_eq_false]
          exact fun k' hk' hp => hnew (apart a k k' hk hp ▸ hk')
        simp [hk, hnone]
      · simp [hk]
    have hwhole := List.filter_append_perm (p k) (l.filter fun a => (k :: rest).any fun k => p k a)
    rw [hown, hothers] at hwhole
    exact ((ih hrest).append_left _).trans hwhole

theorem flatMap_filter_of_nil {α β : Type} {p : α → Bool} {f : α → List β} {l : List α}
    (h : ∀ a ∈ l, ¬ p a = true → f a = []) : (l.filter p).flatMap f = l.flatMap f := by
  induction l with
  | nil => rfl
  | cons a rest ih =>
    have hrest := ih fun b hb => h b (List.mem_cons_of_mem _ hb)
    by_cases hp : p a = true
    · simp [hp, hrest]
    · simp [hp, hrest, h a List.mem_cons_self hp]

namespace Lookup

open Service Repository

theorem nodup_bundles {s : Store} (built : s.Built) (entityType : String) :
    (bundles s.schema entityType).Nodup := by
  have hids := built.bundleIds_nodup entityType
  unfold bundles
  split
  · exact List.nodup_singleton entityType
  · exact hids

theorem mem_bundles {s : Schema} {entityType bundle : String}
    (h : bundle ∈ s.bundleIds entityType) : bundle ∈ bundles s entityType := by
  unfold bundles
  split
  · rename_i hnone
    simp [hnone] at h
  · exact h

theorem bundle_mem_of_derived {s : Schema} {base : ProviderBase} (hbase : base ∈ Registry.builtin)
    {d : ProviderDefinition} (hd : d ∈ base.derive s) : d.bundle ∈ bundles s d.entityType := by
  obtain ⟨eligible, hderive⟩ := Registry.derives_builtin hbase
  rw [hderive] at hd
  obtain ⟨t, -, b, hb, f, -, -, rfl⟩ := Schema.mem_deriveFields hd
  exact mem_bundles (List.mem_map_of_mem hb)

variable {s : Service} {entityType : String} {condition : Condition} {c : Configuration}

def ofType (s : Service) (entityType : String) : List Configuration :=
  s.stored.filter fun c => c.pluginId?.any fun p => p.entityType == entityType

theorem configurations_any (h : s.Readable) (entityType : String) :
    (configurations entityType .any).on s = (.ok (ofType s entityType), s) :=
  Step.on_bind_ok (loadAll_of_readable h)

/-- What is searched are the configurations of the type that some bundle has. -/
theorem listed_bundles_perm (built : s.store.Built) (entityType : String) :
    ((bundles s.schema entityType).flatMap (s.listed entityType)).Perm
      ((ofType s entityType).filter fun c =>
        (bundles s.schema entityType).any fun bundle => c.controls entityType bundle) := by
  have apart : ∀ (c : Configuration) b b', c.controls entityType b = true →
      c.controls entityType b' = true → b = b' := by
    intro c b b' hb hb'
    obtain ⟨p, hp, -, rfl⟩ := Configuration.controls_iff.1 hb
    obtain ⟨p', hp', -, rfl⟩ := Configuration.controls_iff.1 hb'
    rw [hp, Option.some.injEq] at hp'
    rw [hp']
  have hof : ((ofType s entityType).filter fun c =>
      (bundles s.schema entityType).any fun bundle => c.controls entityType bundle) =
      s.stored.filter fun c =>
        (bundles s.schema entityType).any fun bundle => c.controls entityType bundle := by
    rw [ofType, List.filter_filter]
    refine List.filter_congr fun c _ => ?_
    by_cases hany : ((bundles s.schema entityType).any fun b => c.controls entityType b) = true
    · obtain ⟨b, -, hb⟩ := List.any_eq_true.1 hany
      obtain ⟨p, hp, ht, -⟩ := Configuration.controls_iff.1 hb
      simp [hany, hp, ht]
    · simp [hany]
  rw [hof]
  exact flatMap_filter_perm (nodup_bundles built entityType) apart s.stored

/-- A configuration that is bound to no bundle of the schema has no provider, so it
finds nothing. -/
theorem contribution_of_unbound (registry : s.registry = Registry.builtin)
    (readsBack : s.schema.ReadsBack) (hc : c ∈ ofType s entityType)
    (hbundle : ¬ ((bundles s.schema entityType).any fun b => c.controls entityType b) = true) :
    contribution s condition c = [] := by
  cases hmade : c.provider s.registry s.schema with
  | error e =>
    have hend : outcome s condition c = .error e ∧ defect? (outcome s condition c) = none :=
      defect?_of_underivable hmade
    rw [← part_outcome hend.2, hend.1, part]
  | ok made =>
    rw [Configuration.provider, registry] at hmade
    obtain ⟨base, hbase, d, hd, hid, -⟩ := Registry.create_eq_ok hmade
    obtain ⟨p, hp, ht⟩ := (Option.any_eq_true ..).1 (List.mem_filter.1 hc).2
    have hparsed : PluginId.parse? d.id = some p := hid ▸ hp
    obtain ⟨htype, hread⟩ := readsBack base hbase d hd p hparsed
    have hsame : p.entityType = entityType := by simpa using ht
    have hbound : p.bundle ∈ bundles s.schema entityType := by
      rw [hread, ← hsame, htype]
      exact bundle_mem_of_derived hbase hd
    have hcontrols : c.controls entityType p.bundle = true :=
      Configuration.controls_iff.2 ⟨p, hp, hsame, rfl⟩
    exact absurd (List.any_eq_true.2 ⟨_, hbound, hcontrols⟩) hbundle

/-- A search over all bundles of a known type asks every configuration of the type once: if
none of them ends with a defect, it finds what they find one by one, in some order. That holds
for types with and without bundles, for types that are no content, and for configurations
whose bundle or field has gone. -/
theorem all_bundles_search_each_once (registry : s.registry = Registry.builtin)
    (built : s.store.Built) (readable : s.Readable)
    (htypes : ∀ {id t}, s.schema.entityType? id = some t → '.' ∉ id.toList)
    (hbundles : ∀ {entityType b}, b ∈ s.schema.bundlesOf entityType → '.' ∉ b.id.toList)
    (coherent : ∀ bundle, Coherent s entityType bundle)
    (known : (s.schema.entityType? entityType).isSome) (condition : Condition) :
    ∃ list, ((configurations entityType .any).on s).1 = .ok list ∧
      ((∀ c ∈ list, defect? (outcome s condition c) = none) →
        (∀ c ∈ list, ((findIn c condition).on s).1 = .ok (contribution s condition c)) ∧
        ∃ found, ((findSynonyms condition entityType none).on s).1 = .ok found ∧
          found.Perm (list.flatMap (contribution s condition))) := by
  have readsBack : s.schema.ReadsBack := Schema.readsBack_of_plain built htypes hbundles
  refine ⟨ofType s entityType, by rw [configurations_any readable], fun hdefects => ⟨?_, ?_⟩⟩
  · intro c hc
    rw [findIn_of_no_defect (hdefects c hc), part_outcome (hdefects c hc)]
  · have finds : Backend.FindsSteadily s.registry s.backend :=
      registry ▸ Backend.findsSteadily_builtin s.backend
    have loads : Loads s entityType none
        ((bundles s.schema entityType).flatMap (s.listed entityType)) :=
      ⟨known, loadForEach_of_loadFor fun bundle _ => (coherent bundle).loadFor_fst readable⟩
    have hperm := listed_bundles_perm built entityType
    have hsearched : ∀ c ∈ (bundles s.schema entityType).flatMap (s.listed entityType),
        defect? (outcome s condition c) = none :=
      fun c hc => hdefects c (List.mem_filter.1 (hperm.mem_iff.1 hc)).1
    refine ⟨_, findSynonyms_of_no_defect finds loads hsearched, ?_⟩
    have hunbound : ∀ c ∈ ofType s entityType,
        ¬ ((bundles s.schema entityType).any fun b => c.controls entityType b) = true →
          contribution s condition c = [] :=
      fun c hc hbundle => contribution_of_unbound registry readsBack hc hbundle
    rw [← flatMap_filter_of_nil hunbound]
    exact hperm.flatMap_right _

/-- The aliases of both bundles of nodes are configured, and a field, a bundle and a type's
own bundle that are not there. -/
def surveyed : List Configuration :=
  [{ id := "article", plugin := "field:node.article.alias" },
    { id := "gone", plugin := "field:node.article.summary" },
    { id := "lost", plugin := "field:node.news.alias" },
    { id := "medal", plugin := "field:badge.badge.title" },
    { id := "page", plugin := "field:node.page.alias" }]

def surveyService : Service := configuredNotices surveyed

theorem stored_surveyService : surveyService.stored = surveyed := rfl

theorem all_bundles_search_each_once_survey :
    surveyService.store.Built ∧ surveyService.Readable ∧ (ofType surveyService "node").length = 4 ∧
    (∃ found, ((findSynonyms (Condition.onSynonym .like (.string "%r%")) "node" none).on
      surveyService).1 = .ok found ∧ found.Perm [⟨⟨"1"⟩, "Reynard"⟩, ⟨⟨"2"⟩, "Strix"⟩]) ∧
    (ofType surveyService "badge").length = 1 ∧
    ∃ found, ((findSynonyms (Condition.onSynonym .like (.string "%r%")) "badge" none).on
      surveyService).1 = .ok found ∧ found.Perm [] := by
  have readable : surveyService.Readable := ⟨rfl, rfl, by unfold WellFormed; decide +kernel⟩
  have built : surveyService.store.Built := built_noticeService "page"
  have hsearch (entityType : String) (known : (surveyService.schema.entityType? entityType).isSome)
      (hdefects : ∀ c ∈ ofType surveyService entityType,
        defect? (outcome surveyService (Condition.onSynonym .like (.string "%r%")) c) = none) :
      ∃ found, ((findSynonyms (Condition.onSynonym .like (.string "%r%")) entityType none).on
        surveyService).1 = .ok found ∧ found.Perm ((ofType surveyService entityType).flatMap
          (contribution surveyService (Condition.onSynonym .like (.string "%r%")))) := by
    obtain ⟨list, hlist, hfinds⟩ := all_bundles_search_each_once rfl built readable
      ids_noticeStore.1 ids_noticeStore.2 (fun bundle => coherent_of_empty rfl) known
      (Condition.onSynonym .like (.string "%r%"))
    rw [configurations_any readable] at hlist
    cases hlist
    exact (hfinds hdefects).2
  have hdefects : ∀ c ∈ surveyed,
      defect? (outcome surveyService (Condition.onSynonym .like (.string "%r%")) c) = none := by
    decide +kernel
  have hof (entityType : String) : ofType surveyService entityType =
      surveyed.filter fun c => c.pluginId?.any fun p => p.entityType == entityType := by
    rw [ofType, stored_surveyService]
  have hnode : (ofType surveyService "node").flatMap
      (contribution surveyService (Condition.onSynonym .like (.string "%r%"))) =
      [⟨⟨"1"⟩, "Reynard"⟩, ⟨⟨"2"⟩, "Strix"⟩] := by
    rw [hof]
    decide +kernel
  have hbadge : (ofType surveyService "badge").flatMap
      (contribution surveyService (Condition.onSynonym .like (.string "%r%"))) = [] := by
    rw [hof]
    decide +kernel
  refine ⟨built, readable, ?_, ?_, ?_, ?_⟩
  · rw [hof]
    decide +kernel
  · rw [← hnode]
    exact hsearch "node" rfl fun c hc => hdefects c (List.mem_filter.1 (hof "node" ▸ hc)).1
  · rw [hof]
    decide +kernel
  · rw [← hbadge]
    exact hsearch "badge" rfl fun c hc => hdefects c (List.mem_filter.1 (hof "badge" ▸ hc)).1

end Lookup
end SynonymLookup
