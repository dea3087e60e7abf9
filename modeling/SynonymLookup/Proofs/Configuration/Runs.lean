import SynonymLookup.Proofs.Configuration.Coherence
import SynonymLookup.Proofs.Provider.Registry

/-! Runs of operations from an empty cache: when a bundle's configurations are answered as they are
stored, and when all stored configurations can be read. -/

namespace SynonymLookup

namespace Repository

open Service

/-- Between two operations nobody else writes configurations, cached lists or the registry. -/
structure Untouched (s s' : Service) : Prop where
  cached : s'.cached = s.cached
  configurationBlobs : s'.configurationBlobs = s.configurationBlobs
  registry : s'.registry = s.registry

/-- Runs of operations that are allowed where they are asked for, with other changes between. -/
inductive Run (allowed : Service → Operation → Prop) : Service → Service → Prop
  | refl (s : Service) : Run allowed s s
  | operation {s₀ s : Service} (o : Operation) : Run allowed s₀ s → allowed s o →
      Run allowed s₀ (o.after s)
  | elsewhere {s₀ s s' : Service} : Run allowed s₀ s → Untouched s s' → Run allowed s₀ s'

variable {allowed : Service → Operation → Prop} {s₀ s : Service} {entityType bundle : String}

theorem Run.ownKeys (run : Run allowed s₀ s) (h : s₀.OwnKeys) : s.OwnKeys := by
  induction run with
  | refl => exact h
  | operation o _ _ ih => exact (effect_after o _).ownKeys ih
  | elsewhere _ untouched ih => exact ih.congr untouched.configurationBlobs

theorem Coherent.congr {s' : Service} (h : Coherent s entityType bundle)
    (untouched : Untouched s s') : Coherent s' entityType bundle := by
  intro list hlist
  rw [untouched.cached] at hlist
  rw [h list hlist, listed_congr untouched.configurationBlobs]

theorem Run.coherent (run : Run (fun s o => ¬ o.Unbinds s entityType bundle) s₀ s)
    (hown : s₀.OwnKeys) (h : Coherent s₀ entityType bundle) : Coherent s entityType bundle := by
  induction run with
  | refl => exact h
  | operation o earlier hkeeps ih =>
    exact (effect_after o _).coherent ih (earlier.ownKeys hown) hkeeps
  | elsewhere _ untouched ih => exact ih.congr untouched

theorem stored_of_loadAll {all : List Configuration} (h : (loadAll.on s).1 = .ok all) :
    all = s.stored := by
  rcases loadAll_on s with hall | ⟨e, hall, -⟩
  · rw [hall] at h
    cases h
    rfl
  · rw [hall] at h
    cases h

/-- A bundle is answered with its stored configurations: with all that can be read if they can, and
never with another list. -/
structure AnswersStored (s : Service) (entityType bundle : String) : Prop where
  of_loadAll : ∀ all, (loadAll.on s).1 = .ok all →
    ((loadFor entityType bundle).on s).1 = .ok (all.filter fun c => c.controls entityType bundle)
  eq_listed : ∀ list, ((loadFor entityType bundle).on s).1 = .ok list →
    list = s.listed entityType bundle

theorem Coherent.answersStored (h : Coherent s entityType bundle) :
    AnswersStored s entityType bundle := by
  constructor
  · intro all hall
    have hstored := stored_of_loadAll hall
    rw [loadFor_on]
    cases hlist : s.cached.get? (bundleTag entityType bundle) with
    | some list =>
      show Except.ok list = _
      rw [h list hlist, hstored, Service.listed]
    | none =>
      rcases loadAll_on s with h | ⟨e, h, -⟩
      · simp only [h]
        rw [hstored, Service.listed]
      · rw [h] at hall
        cases hall
  · intro list hanswer
    have hstep : (loadFor entityType bundle).on s =
        (.ok list, ((loadFor entityType bundle).on s).2) := Prod.ext hanswer rfl
    rcases loadFor_eq_ok hstep with ⟨hcached, -⟩ | ⟨hlist, -⟩
    · exact h list hcached
    · exact hlist

/-- A list that is cached when a save unbinds one of its configurations goes on being answered. -/
theorem not_answersStored_after {o : Operation} {list : List Configuration} (hown : s.OwnKeys)
    (h : Coherent s entityType bundle)
    (hcached : s.cached.get? (bundleTag entityType bundle) = some list)
    (hunbinds : o.Unbinds s entityType bundle) : ¬ AnswersStored (o.after s) entityType bundle := by
  intro hanswers
  obtain ⟨c, hafter, hkeeps⟩ := after_of_unbinds hunbinds
  obtain ⟨-, -, -, hc⟩ := not_keepsBundle_iff.1 hkeeps
  have hstale : ((loadFor entityType bundle).on (o.after s)).1 = .ok list := by
    rw [loadFor_on, hafter, cached_put, if_neg hc, hcached]
  have hlist := hanswers.eq_listed list hstale
  rw [h list hcached, hafter] at hlist
  exact listed_put_ne hown hkeeps hlist.symm

def Operation.ReadsBack (o : Operation) : Prop :=
  ∀ c, o = .save c → (Configuration.ofJson? c.toJson).isSome

theorem Effect.registry {s' : Service} {o : Operation} (effect : Effect s o s') :
    s'.registry = s.registry := by
  cases effect with
  | nothing => rfl
  | remembered => rfl
  | invalidated => rfl
  | cleared => rfl
  | saved c => exact put_registry s c
  | submitted id values c p => exact put_registry s _
  | deleted id c => exact remove_registry s c

theorem Run.registry (run : Run allowed s₀ s) : s.registry = s₀.registry := by
  induction run with
  | refl => rfl
  | operation o _ _ ih => rw [(effect_after o _).registry, ih]
  | elsewhere _ untouched ih => rw [untouched.registry, ih]

theorem Effect.wellFormed {s' : Service} {o : Operation} (effect : Effect s o s') (h : s.WellFormed)
    (hregistry : s.registry.KeepsSettings) (hreads : o.ReadsBack) : s'.WellFormed := by
  cases effect with
  | nothing => exact h
  | remembered => exact h
  | invalidated => exact h
  | cleared => exact h
  | saved c => exact h.put (hreads c rfl)
  | submitted id values c p found made =>
    apply h.put
    obtain ⟨j, -, hread⟩ := found
    have hwording := (Configuration.plain_of_ofJson? hread).wording
    rw [← hregistry.create made] at hwording
    rw [Configuration.ofJson?_toJson, Option.isSome_map]
    apply ProviderConfiguration.isSome_ofJson?_toJson
    exact ProviderConfiguration.extra_wording_submit hwording values
  | deleted id c => exact h.remove c

theorem Run.wellFormed (run : Run (fun _ o => o.ReadsBack) s₀ s) (h : s₀.WellFormed)
    (hregistry : s₀.registry.KeepsSettings) : s.WellFormed := by
  induction run with
  | refl => exact h
  | operation o earlier hreads ih =>
    exact (effect_after o _).wellFormed ih (earlier.registry ▸ hregistry) hreads
  | elsewhere _ untouched ih => exact ih.congr untouched.configurationBlobs

/-- From an empty cache, the configurations of a bundle are answered as they are stored and every
change of them invalidates the bundle's tag, exactly as long as no save takes the id of one of them
for a configuration of another bundle. All of them can be read while what is saved reads back. -/
theorem answersStored_iff_not_unbinds {s₀ : Service} (hown : s₀.OwnKeys)
    (hempty : s₀.cached = .empty) (entityType bundle : String) :
    (∀ s, Run (fun s o => ¬ o.Unbinds s entityType bundle) s₀ s →
      AnswersStored s entityType bundle ∧
      ∀ list, ((loadFor entityType bundle).on s).1 = .ok list → ∀ o : Operation,
        let asked := (Operation.loadFor entityType bundle).after s
        AnswersStored (o.after asked) entityType bundle ↔ ¬ o.Unbinds asked entityType bundle) ∧
    (∀ s, Run (fun _ _ => True) s₀ s → ∀ o : Operation,
      Announces o s entityType bundle ↔ ¬ o.Unbinds s entityType bundle) ∧
    (s₀.WellFormed → s₀.registry.KeepsSettings → ∀ s, Run (fun _ o => o.ReadsBack) s₀ s →
      s.Up .configList → s.Up .configGet → (loadAll.on s).1 = .ok s.stored) := by
  refine ⟨fun s run => ?_, fun s run o => announces_iff (run.ownKeys hown) _ _, ?_⟩
  · have hcoherent := run.coherent hown (coherent_of_empty hempty)
    refine ⟨hcoherent.answersStored, fun list hlist o =>
      ⟨fun hanswers hunbinds => ?_, fun hkeeps => ?_⟩⟩
    all_goals
      have effect := effect_after (.loadFor entityType bundle) s
      have hownAsked := effect.ownKeys (run.ownKeys hown)
      have hasked := effect.coherent hcoherent (run.ownKeys hown)
        (not_unbinds_loadFor s entityType bundle entityType bundle)
    · have hanswer : (loadFor entityType bundle).on s =
          (.ok list, (Operation.loadFor entityType bundle).after s) := Prod.ext hlist rfl
      exact not_answersStored_after hownAsked hasked (cached_of_loadFor hanswer) hunbinds hanswers
    · exact ((effect_after o _).coherent hasked hownAsked hkeeps).answersStored
  · intro hwell hregistry s run hlist hget
    rcases loadAll_on s with h | ⟨e, -, hbad⟩
    · rw [h]
    · exact absurd (run.wellFormed hwell hregistry) (hbad hlist hget)

def unconfigured : Service :=
  let node : EntityType := { id := "node", keys := { bundle := some "type" } }
  let field : Field := { name := "field_alias", fieldType := "string" }
  let schema := ((Schema.insertEntityType {} node).insertBundle
    "node" ⟨"article", "Article"⟩).insertBundle "node" ⟨"page", "Page"⟩
  let schema := (schema.insertField "node" "article" field).insertField "node" "page" field
  { backend := { store := { schema } } }

def aliasOf (bundle : String) : Configuration where
  id := "alias"
  plugin := "field:node." ++ bundle ++ ".field_alias"

def configured : Service := (Operation.save (aliasOf "article")).after unconfigured

def asked : Service := (Operation.loadFor "node" "article").after configured

theorem ownKeys_unconfigured : unconfigured.OwnKeys := by
  intro key j c hj
  cases hj

theorem wellFormed_unconfigured : unconfigured.WellFormed := by
  intro j hj
  cases hj

theorem save_page_unbinds : (Operation.save (aliasOf "page")).Unbinds asked "node" "article" := by
  refine ⟨aliasOf "page", rfl, rfl, ?_⟩
  rw [not_keepsBundle_iff]
  refine ⟨aliasOf "article", ⟨(aliasOf "article").toJson, rfl, rfl⟩, by decide, by decide⟩

theorem save_article_keeps :
    ¬ (Operation.save (aliasOf "article")).Unbinds unconfigured "node" "article" := by
  rintro ⟨c, -, -, hkeeps⟩
  obtain ⟨old, ⟨j, hj, -⟩, -⟩ := not_keepsBundle_iff.1 hkeeps
  cases hj

theorem answersStored_iff_not_unbinds_asked :
    unconfigured.OwnKeys ∧ unconfigured.cached = .empty ∧
    AnswersStored configured "node" "article" ∧
    ¬ AnswersStored ((Operation.save (aliasOf "page")).after asked) "node" "article" ∧
    ¬ Announces (.save (aliasOf "page")) asked "node" "article" ∧
    (loadAll.on configured).1 = .ok configured.stored := by
  obtain ⟨answers, announces, reads⟩ :=
    answersStored_iff_not_unbinds ownKeys_unconfigured rfl "node" "article"
  have run : Run (fun s o => ¬ o.Unbinds s "node" "article") unconfigured configured :=
    .operation _ (.refl _) save_article_keeps
  have anyRun : Run (fun _ _ => True) unconfigured asked :=
    .operation _ (.operation _ (.refl _) trivial) trivial
  have readRun : Run (fun _ o => o.ReadsBack) unconfigured configured := by
    refine .operation _ (.refl _) fun c hc => ?_
    cases hc
    rfl
  have answered : ((loadFor "node" "article").on configured).1 = .ok [aliasOf "article"] := rfl
  refine ⟨ownKeys_unconfigured, rfl, (answers _ run).1, fun h => ?_, fun h => ?_, ?_⟩
  · exact ((answers _ run).2 _ answered _).1 h save_page_unbinds
  · exact (announces _ anyRun _).1 h save_page_unbinds
  · exact reads wellFormed_unconfigured Registry.keepsSettings_builtin _ readRun rfl rfl

/-- Taking an id for another bundle leaves a cached list behind and does not invalidate its tag. -/
theorem save_for_other_bundle_leaves_cached_list :
    ¬ ∀ s₀ s : Service, s₀.OwnKeys → s₀.WellFormed → s₀.cached = .empty →
      Run (fun _ _ => True) s₀ s → ∀ entityType bundle,
        AnswersStored s entityType bundle ∧ ∀ o : Operation, Announces o s entityType bundle := by
  intro h
  have run : Run (fun _ _ => True) unconfigured asked :=
    .operation _ (.operation _ (.refl _) trivial) trivial
  have hsaved := h unconfigured ((Operation.save (aliasOf "page")).after asked) ownKeys_unconfigured
    wellFormed_unconfigured rfl (.operation _ run trivial) "node" "article"
  have stale : ((loadFor "node" "article").on ((Operation.save (aliasOf "page")).after asked)).1 =
      .ok [aliasOf "article"] := rfl
  have stored : (loadAll.on ((Operation.save (aliasOf "page")).after asked)).1 =
      .ok [aliasOf "page"] := rfl
  have hanswer := hsaved.1.of_loadAll _ stored
  rw [stale] at hanswer
  cases hanswer

end Repository
end SynonymLookup
