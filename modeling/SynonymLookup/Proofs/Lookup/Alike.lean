import SynonymLookup.Proofs.Lookup.FanOut
import SynonymLookup.Proofs.Steady

/-! States that answer alike. Lookups count queries and cache the lists that they read, and nothing
else, so whatever was looked up before, the next lookup answers as it does at the first state. -/

namespace SynonymLookup

open Step

namespace Backend

def asked (b : Backend) (queries : Nat) : Backend :=
  { b with store := { b.store with executed := b.store.executed + queries } }

def Asked (b b' : Backend) : Prop := ∃ queries, b' = b.asked queries

variable {b : Backend}

theorem Asked.refl : b.Asked b := ⟨0, rfl⟩

theorem Asked.counted {b' : Backend} (h : b.Asked b') : b.Asked b'.counted := by
  obtain ⟨queries, rfl⟩ := h
  exact ⟨queries + 1, rfl⟩

theorem rows_asked (b : Backend) (n : Nat) (q : Query) :
    (b.asked n).store.rows q = b.store.rows q := by
  apply Store.rows_congr <;> rfl

theorem steady_execute (q : Query) : Steady b.Asked (execute q) where
  stays {b'} hb := by
    rw [execute_eq]
    split
    · exact hb
    · exact hb.counted
  same {b₁ b₂} h₁ h₂ := by
    obtain ⟨n₁, rfl⟩ := h₁
    obtain ⟨n₂, rfl⟩ := h₂
    have hallow : (b.asked n₂).outages.allow .execute = (b.asked n₁).outages.allow .execute := rfl
    rw [execute_eq, execute_eq, hallow, rows_asked, rows_asked]
    split <;> rfl

theorem Asked.get {α : Type} {f : Backend → Step Backend α} (hsame : ∀ n, f (b.asked n) = f b)
    (h : Steady b.Asked (f b)) : Steady b.Asked (MonadState.get >>= f) := by
  refine .get (fun h₁ h₂ => ?_) fun hb => ?_
  · obtain ⟨n₁, rfl⟩ := h₁
    obtain ⟨n₂, rfl⟩ := h₂
    rw [hsame, hsame]
  · obtain ⟨n, rfl⟩ := hb
    rwa [hsame]

theorem steady_findIn (d : ProviderDefinition) (column : String) (c : Condition) :
    Steady b.Asked (d.findIn column c) := by
  refine Asked.get (fun _ => rfl) ?_
  cases b.schema.entityType? d.entityType with
  | none => exact .throw _
  | some t =>
    cases hlocate : b.locate t.id column with
    | ok place =>
      simp only [hlocate]
      exact (steady_execute _).bind fun _ => .pure _
    | error e =>
      cases e with
      | unknownColumn entityType name => simpa only [hlocate] using Steady.pure _
      | _ => simpa only [hlocate] using Steady.throw _

theorem steady_reference (d : ProviderDefinition) (c : Condition) :
    Steady b.Asked (ReferenceProvider.find d c) := by
  refine Asked.get (fun _ => rfl) ?_
  cases ReferenceProvider.column? b d with
  | none => exact .pure []
  | some column => exact steady_findIn d column c

theorem synonyms_asked {s : Schema} {plugin : String} {settings : ProviderConfiguration}
    {p : Provider} (h : Registry.builtin.create s plugin settings = .ok p) (b : Backend) (n : Nat) :
    p.synonyms (b.asked n) = p.synonyms b := by
  obtain ⟨base, hbase, d, -, -, rfl⟩ := Registry.create_eq_ok h
  rcases Registry.mem_builtin.1 hbase with rfl | rfl | rfl <;> rfl

theorem steady_find_create {base : ProviderBase} (h : base ∈ Registry.builtin) (s : Schema)
    (d : ProviderDefinition) (settings : ProviderConfiguration) (c : Condition) :
    Steady b.Asked ((base.create s d settings).find c) := by
  rcases Registry.mem_builtin.1 h with rfl | rfl | rfl
  · exact steady_findIn d _ c
  · exact steady_findIn d _ c
  · exact steady_reference d c

theorem steady_find {s : Schema} {plugin : String} {settings : ProviderConfiguration} {p : Provider}
    (h : Registry.builtin.create s plugin settings = .ok p) (c : Condition) :
    Steady b.Asked (p.find c) := by
  obtain ⟨base, hbase, d, -, -, rfl⟩ := Registry.create_eq_ok h
  exact steady_find_create hbase s d settings c

/-- The searches of all providers that can be made only count queries, and do not
hang on how many were executed. -/
def FindsSteadily (r : Registry) (b : Backend) : Prop :=
  ∀ {plugin settings p}, r.create b.schema plugin settings = .ok p →
    ∀ condition, Steady b.Asked (p.find condition)

theorem findsSteadily_builtin (b : Backend) : FindsSteadily Registry.builtin b :=
  fun h => steady_find h

end Backend

namespace Service

open Repository

variable {s u : Service}

def configurationsOf (s : Service) (entityType bundle : String) : List Configuration :=
  ((loadFor entityType bundle).on s).1.toOption.getD []

/-- The second state answers as the first: it differs in the number of queries, and in cached lists
that the first gives too when it is asked for them. -/
structure Alike (s u : Service) : Prop where
  backend : s.backend.Asked u.backend
  blobs : u.blobs = s.blobs
  registry : u.registry = s.registry
  lists : ∀ entityType bundle,
    ((loadFor entityType bundle).on u).1 = ((loadFor entityType bundle).on s).1

theorem Alike.refl : s.Alike s := ⟨.refl, rfl, rfl, fun _ _ => rfl⟩

theorem sameSettings_alike : SameSettings s.Alike := by
  intro u u' hu hu'
  obtain ⟨n, hn⟩ := hu.backend
  obtain ⟨n', hn'⟩ := hu'.backend
  refine ⟨hu'.blobs.trans hu.blobs.symm, ?_⟩
  rw [hn, hn']
  rfl

theorem Alike.eq_of_read {α : Type} {f : Backend → α} (hu : s.Alike u)
    (h : ∀ n, f (s.backend.asked n) = f s.backend) : f u.backend = f s.backend := by
  obtain ⟨n, hn⟩ := hu.backend
  rw [hn, h]

theorem Alike.schema (h : s.Alike u) : u.schema = s.schema :=
  h.eq_of_read (f := Backend.schema) fun _ => rfl

theorem loadFor_congr {s s' : Service} {entityType bundle : String}
    (hcached : s'.cached.get? (bundleTag entityType bundle) =
      s.cached.get? (bundleTag entityType bundle))
    (hblobs : s'.blobs = s.blobs) (houtages : s'.backend.outages = s.backend.outages) :
    ((loadFor entityType bundle).on s').1 = ((loadFor entityType bundle).on s).1 := by
  have same : SameSettings fun u => u.blobs = s.blobs ∧ u.backend.outages = s.backend.outages :=
    fun hu hu' => ⟨hu'.1.trans hu.1.symm, hu'.2.trans hu.2.symm⟩
  have hall : (loadAll.on s').1 = (loadAll.on s).1 :=
    same.loadAll.same ⟨rfl, rfl⟩ ⟨hblobs, houtages⟩
  have hlisted : s'.listed entityType bundle = s.listed entityType bundle :=
    listed_congr (by simp only [configurationBlobs, hblobs]) entityType bundle
  rw [loadFor_on, loadFor_on, hcached]
  cases s.cached.get? (bundleTag entityType bundle) with
  | some list => rfl
  | none =>
    rcases hon : loadAll.on s with ⟨r, t⟩
    rcases hon' : loadAll.on s' with ⟨r', t'⟩
    simp only [hon, hon'] at hall
    subst hall
    cases r' with
    | error e => rfl
    | ok all => simp only [hlisted]

/-- A list that is read and cached is the list that every bundle of the tag gets. -/
theorem loadFor_remember {entityType bundle : String}
    (hnew : s.cached.get? (bundleTag entityType bundle) = none) {all : List Configuration}
    (hall : loadAll.on s = (.ok all, s)) (entityType' bundle' : String) :
    ((loadFor entityType' bundle').on (s.remember entityType bundle)).1 =
      ((loadFor entityType' bundle').on s).1 := by
  by_cases htag : bundleTag entityType bundle = bundleTag entityType' bundle'
  · have hlisted : s.listed entityType bundle = s.listed entityType' bundle' :=
      List.filter_congr fun c _ => Configuration.controls_congr htag
    rw [loadFor_on, loadFor_on, ← htag, hnew]
    simp only [Service.remember, KeyMap.get?_insert, if_pos, hall, hlisted]
  · refine loadFor_congr ?_ rfl rfl
    simp only [Service.remember, KeyMap.get?_insert, if_neg htag]

theorem Alike.withBackend (h : s.Alike u) {b : Backend} (hb : s.backend.Asked b) :
    s.Alike { u with backend := b } where
  backend := hb
  blobs := h.blobs
  registry := h.registry
  lists entityType bundle := by
    have houtages : b.outages = u.backend.outages := by
      obtain ⟨n, rfl⟩ := hb
      exact (h.eq_of_read (f := Backend.outages) fun _ => rfl).symm
    rw [← h.lists entityType bundle]
    exact loadFor_congr rfl rfl houtages

theorem Alike.remember (h : s.Alike u) {entityType bundle : String}
    (hnew : u.cached.get? (bundleTag entityType bundle) = none) {all : List Configuration}
    (hall : loadAll.on u = (.ok all, u)) : s.Alike (u.remember entityType bundle) where
  backend := h.backend
  blobs := h.blobs
  registry := h.registry
  lists entityType' bundle' := by rw [loadFor_remember hnew hall, h.lists]

theorem steady_loadFor (entityType bundle : String) :
    Steady s.Alike (loadFor entityType bundle) where
  stays {u} hu := by
    rw [loadFor_on]
    cases hcached : u.cached.get? (bundleTag entityType bundle) with
    | some list => exact hu
    | none =>
      rcases loadAll_on u with hall | ⟨e, hall, -⟩
      · simp only [hall]
        exact hu.remember hcached hall
      · simp only [hall]
        exact hu
  same hu hu' := by rw [hu.lists, hu'.lists]

theorem steady_onBackend {α : Type} {step : Step Backend α} (h : Steady s.backend.Asked step) :
    Steady s.Alike (onBackend step) where
  stays hu := by
    rw [Lookup.onBackend_on (Prod.eta _).symm]
    exact hu.withBackend (h.stays hu.backend)
  same hu hu' := by
    rw [Lookup.onBackend_on (Prod.eta _).symm, Lookup.onBackend_on (Prod.eta _).symm]
    exact h.same hu.backend hu'.backend

/-- What is asked of the backend must not hang on the number of queries. -/
theorem steady_ask {α : Type} {f : Backend → Except StorageError α}
    (h : ∀ n, f (s.backend.asked n) = f s.backend) : Steady s.Alike (ask f) :=
  .read fun hu hu' => by rw [hu.eq_of_read h, hu'.eq_of_read h]

theorem steady_entityType (id : String) : Steady s.Alike (Service.entityType id) := by
  refine .get (fun hu hu' => by rw [hu.schema, hu'.schema]) fun {u} _ => ?_
  cases u.schema.entityType? id with
  | some t => exact .pure t
  | none => exact .throw _

theorem steady_provider (c : Configuration) : Steady s.Alike (provider c) :=
  .get (fun hu hu' => by rw [hu.schema, hu'.schema, hu.registry, hu'.registry]) fun _ => .ofExcept _

theorem steady_present (synonym : String) (e : Entity) (c : Configuration) (behavior : String) :
    Step.Steady s.Alike (Wording.present synonym e c behavior) :=
  sameSettings_alike.wordingSettings.bind fun _ =>
    .ite (.pure _) ((sameSettings_alike.template c behavior _).bind fun _ =>
      .get (fun hu hu' => by rw [hu.schema, hu'.schema]) fun _ => .pure _)

end Service

namespace Lookup

open Service Repository

variable {s : Service}

theorem steady_loadSome (entityType : String) (ids : List EntityId) :
    Step.Steady s.Alike (loadSome entityType ids) :=
  .ite (.pure _) (steady_ask fun _ => rfl)

theorem steady_loadForEach (entityType : String) (bundles : List String) :
    Steady s.Alike (loadForEach entityType bundles) := by
  induction bundles with
  | nil => exact .pure []
  | cons bundle rest ih =>
    exact (steady_loadFor entityType bundle).bind fun _ => ih.bind fun _ => .pure _

theorem exists_of_loadForEach {entityType : String} {bundles : List String}
    {list : List Configuration} (h : ((loadForEach entityType bundles).on s).1 = .ok list) :
    (∀ bundle ∈ bundles,
      ((loadFor entityType bundle).on s).1 = .ok (s.configurationsOf entityType bundle)) ∧
      list = bundles.flatMap (s.configurationsOf entityType) := by
  induction bundles generalizing list with
  | nil =>
    cases h
    exact ⟨fun _ hb => absurd hb List.not_mem_nil, rfl⟩
  | cons bundle rest ih =>
    obtain ⟨first, hfirst, hrest⟩ := (steady_loadFor entityType bundle).exists_of_on_bind_fst .refl
      (fun _ => (steady_loadForEach entityType rest).bind fun _ => .pure _) h
    obtain ⟨later, hlater, hresult⟩ :=
      (steady_loadForEach entityType rest).exists_of_on_bind_fst .refl
      (fun _ => .pure _) hrest
    cases hresult
    obtain ⟨hloaded, rfl⟩ := ih hlater
    have hown : s.configurationsOf entityType bundle = first := by
      rw [configurationsOf, hfirst]
      rfl
    refine ⟨fun b hb => ?_, by rw [List.flatMap_cons, hown]⟩
    rcases List.mem_cons.1 hb with rfl | hb
    · rw [hfirst, hown]
    · exact hloaded b hb

/-- What configurations extract does not hang on what was asked before. -/
theorem gathered_alike {u : Service} (registry : s.registry = Registry.builtin) (hu : s.Alike u)
    (e : Entity) (list : List Configuration) : gathered u e list = gathered s e list := by
  obtain ⟨n, hn⟩ := hu.backend
  refine List.flatMap_congr fun c _ => ?_
  rw [hu.registry, hu.schema, hn]
  cases hp : c.provider s.registry s.schema with
  | error e => rfl
  | ok p =>
    rw [Configuration.provider, registry] at hp
    simp only [Backend.synonyms_asked hp]

theorem steady_entitySynonyms (registry : s.registry = Registry.builtin) (e : Entity) :
    Steady s.Alike (entitySynonyms e) := by
  refine (steady_loadFor _ _).bind fun list => .get (fun hu hu' => ?_) fun _ => .pure _
  rw [gathered_alike registry hu, gathered_alike registry hu']

theorem controls_of_mem_configurationsOf {entityType bundle : String} (cached : CachedControl s)
    {c : Configuration} (h : c ∈ s.configurationsOf entityType bundle) :
    c.controls entityType bundle = true := by
  cases hload : ((loadFor entityType bundle).on s).1 with
  | error e =>
    rw [configurationsOf, hload] at h
    cases h
  | ok list =>
    rw [configurationsOf, hload] at h
    exact controls_of_loadFor cached (Step.on_eq_of_fst hload) c h

theorem steady_search_of_finds (finds : Backend.FindsSteadily s.registry s.backend)
    (condition : Condition) (c : Configuration) : Steady s.Alike (search c condition) := by
  refine (steady_provider c).bind_of_answer fun {u p} hu hp => ?_
  rw [provider_on, hu.registry, hu.schema] at hp
  exact steady_onBackend (finds hp condition)

section Builtin

variable (registry : s.registry = Registry.builtin) (condition : Condition)
include registry

theorem steady_search (c : Configuration) : Steady s.Alike (search c condition) :=
  steady_search_of_finds (registry ▸ Backend.findsSteadily_builtin s.backend) condition c

theorem steady_findIn (c : Configuration) : Steady s.Alike (findIn c condition) :=
  (steady_search registry condition c).tryCatch fun _ => .ite (.throw _) (.pure [])

theorem steady_findInEach (list : List Configuration) :
    Steady s.Alike (findInEach condition list) := by
  induction list with
  | nil => exact .pure []
  | cons c rest ih =>
    have hobserved : Steady s.Alike (findInEach.observing (findIn c condition)) :=
      ((steady_findIn registry condition c).bind fun _ => .pure _).tryCatch fun _ => .pure _
    exact hobserved.bind fun _ => ih.bind fun _ => .pure _

theorem steady_findSynonyms (entityType : String) (bundle : Option String) :
    Steady s.Alike (findSynonyms condition entityType bundle) := by
  refine (steady_entityType entityType).bind fun _ => ?_
  refine .get (fun hu hu' => by rw [hu.schema, hu'.schema]) fun _ => ?_
  exact (steady_loadForEach entityType _).bind fun list =>
    (steady_findInEach registry condition list).bind fun _ => .ofExcept _

end Builtin

end Lookup

end SynonymLookup
