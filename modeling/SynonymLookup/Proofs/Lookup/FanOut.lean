import SynonymLookup.Lookup
import SynonymLookup.Proofs.Configuration.Coherence
import SynonymLookup.Proofs.Provider.Derived

/-! Lookups over the configurations of a bundle: each contributes what its provider extracts or
finds, one after the other, and a search changes nothing but the number of queries. -/

namespace SynonymLookup

namespace Service

def counted (s : Service) : Service := { s with backend := s.backend.counted }

/-- The second state comes about from the first by executing queries. -/
inductive Counts (s : Service) : Service → Prop
  | refl : Counts s s
  | counted {s' : Service} : Counts s s' → Counts s s'.counted

/-- The providers are the built-in ones, the store answers, and the names of the
schema are plain. -/
structure Searchable (s : Service) : Prop where
  registry : s.registry = Registry.builtin
  built : s.backend.store.Built
  up : s.backend.InService
  plain : s.backend.schema.Plain

def found (s : Service) (condition : Condition) (c : Configuration) : List SynonymResult :=
  match c.provider s.registry s.schema with
  | .error _ => []
  | .ok p =>
    match s.schema.entityType? p.definition.entityType with
    | none => []
    | some t => p.definition.matching t s.store (p.synonyms s.backend) condition

theorem Searchable.counted {s : Service} (h : s.Searchable) : s.counted.Searchable where
  registry := h.registry
  built := .executed h.built
  up := ⟨h.up.resolve, h.up.execute, h.up.loadMultiple, h.up.hidden⟩
  plain := h.plain

theorem Counts.trans {s s' s₂ : Service} (h : Counts s s') (h' : Counts s' s₂) : Counts s s₂ := by
  induction h' with
  | refl => exact h
  | counted _ ih => exact .counted ih

theorem Counts.searchable {s s' : Service} (h : Counts s s') (hs : s.Searchable) :
    s'.Searchable := by
  induction h with
  | refl => exact hs
  | counted _ ih => exact ih.counted

theorem Counts.unchanged {s s' : Service} (h : Counts s s') :
    s'.cached = s.cached ∧ s'.registry = s.registry ∧ s'.schema = s.schema := by
  induction h with
  | refl => exact ⟨rfl, rfl, rfl⟩
  | counted _ ih => exact ih

theorem Searchable.of_eq {s s' : Service} (h : s.Searchable) (hbackend : s'.backend = s.backend)
    (hregistry : s'.registry = s.registry) : s'.Searchable where
  registry := hregistry.trans h.registry
  built := hbackend ▸ h.built
  up := hbackend ▸ h.up
  plain := hbackend ▸ h.plain

end Service

theorem synonyms_counted {s : Schema} {plugin : String} {settings : ProviderConfiguration}
    {p : Provider} (h : Registry.builtin.create s plugin settings = .ok p) (b : Backend) :
    p.synonyms b.counted = p.synonyms b := by
  obtain ⟨base, hbase, d, -, -, rfl⟩ := Registry.create_eq_ok h
  rcases Registry.mem_builtin.1 hbase with rfl | rfl | rfl <;> rfl

namespace Lookup

open Service

theorem found_counted {s : Service} (h : s.Searchable) (condition : Condition) :
    s.counted.found condition = s.found condition := by
  funext c
  show (match c.provider s.registry s.schema with
    | .error _ => []
    | .ok p =>
      match s.schema.entityType? p.definition.entityType with
      | none => []
      | some t => p.definition.matching t s.store (p.synonyms s.backend.counted) condition) = _
  unfold Service.found
  cases hp : c.provider s.registry s.schema with
  | error e => rfl
  | ok p =>
    unfold Configuration.provider at hp
    rw [h.registry] at hp
    simp only [synonyms_counted hp]

theorem gathered_counted {s : Service} (h : s.Searchable) (e : Entity) (l : List Configuration) :
    gathered s.counted e l = gathered s e l := by
  unfold gathered
  apply List.flatMap_congr
  intro c _
  have hprovider : c.provider s.counted.registry s.counted.schema =
      c.provider s.registry s.schema := rfl
  rw [hprovider]
  cases hp : c.provider s.registry s.schema with
  | error e => rfl
  | ok p =>
    unfold Configuration.provider at hp
    rw [h.registry] at hp
    exact congrFun (synonyms_counted hp s.backend) e

theorem gathered_counts {s s' : Service} (h : s.Searchable) (hcounts : Counts s s') (e : Entity)
    (l : List Configuration) : gathered s' e l = gathered s e l := by
  induction hcounts with
  | refl => rfl
  | counted earlier ih => rw [gathered_counted (earlier.searchable h), ih]

theorem ask_eq_ok {α : Type} {f : Backend → Except StorageError α} {a : α} {s s' : Service}
    (h : (ask f).on s = (.ok a, s')) : s' = s ∧ f s.backend = .ok a := by
  unfold ask at h
  rw [Step.on_read] at h
  cases hf : f s.backend with
  | error e =>
    simp only [hf] at h
    cases h
  | ok value =>
    simp only [hf] at h
    cases h
    exact ⟨rfl, rfl⟩

theorem get?_of_loadAll {s : Service} (hidden : s.backend.outages.hidden = [])
    (built : s.store.Built) {entityType : String} {ids : List EntityId} {loaded : KeyMap Entity}
    (h : ((ask fun b => b.loadAll entityType ids).on s).1 = .ok loaded) {id : EntityId}
    (hid : id ∈ ids) : loaded.get? id.text = s.store.load entityType id := by
  obtain ⟨-, hload⟩ := ask_eq_ok (Step.on_eq_of_fst h)
  rw [Backend.loadAll] at hload
  cases hallow : s.backend.outages.allow .loadMultiple with
  | error e =>
    rw [hallow] at hload
    cases hload
  | ok _ =>
    rw [hallow] at hload
    cases hload
    have hget : (s.backend.store.loadAll entityType ids).get? id.text =
        s.store.load entityType id :=
      built.consistent.get?_loadAll entityType hid
    rw [KeyMap.get?_filter, hidden, hget]
    cases s.store.load entityType id <;> rfl

def loadSome (entityType : String) (ids : List EntityId) : Action (KeyMap Entity) :=
  if ids.isEmpty then pure .empty else ask fun b => b.loadAll entityType ids

theorem get?_of_loadSome {s : Service} (hidden : s.backend.outages.hidden = [])
    (built : s.store.Built) {entityType : String} {ids : List EntityId} {loaded : KeyMap Entity}
    (h : ((loadSome entityType ids).on s).1 = .ok loaded) {id : EntityId} (hid : id ∈ ids) :
    loaded.get? id.text = s.store.load entityType id := by
  rw [loadSome, if_neg (by simpa using List.ne_nil_of_mem hid)] at h
  exact get?_of_loadAll hidden built h hid

theorem onBackend_on {α : Type} {step : Step Backend α} {s : Service} {r : Except LookupError α}
    {b : Backend} (h : step.on s.backend = (r, b)) :
    (onBackend step).on s = (r, { s with backend := b }) := by
  unfold onBackend
  rw [Step.on_bind_ok (Step.on_get s)]
  replace h : step.run.run s.backend = (r, b) := h
  rw [h]
  dsimp only
  rw [Step.on_bind_ok (Step.on_set s _)]
  exact Step.on_ofExcept r _

/-- A configuration contributes what its provider finds, and nothing if there is none. -/
theorem findIn_on {s : Service} (h : s.Searchable) {condition : Condition} (hc : condition.Askable)
    (c : Configuration) :
    (findIn c condition).on s = (.ok (s.found condition c), s) ∨
      (findIn c condition).on s = (.ok (s.found condition c), s.counted) := by
  unfold findIn Service.found
  rw [Step.on_tryCatch]
  unfold search
  rw [Step.on_bind, Repository.provider_on]
  cases hp : c.provider s.registry s.schema with
  | error e =>
    left
    have hdefect := Registry.isQueryDefect_create hp
    dsimp only
    rw [hdefect]
    rfl
  | ok p =>
    right
    unfold Configuration.provider at hp
    rw [h.registry] at hp
    obtain ⟨t, hsearches⟩ := h.plain.searches_create h.built h.up hp
    have hknown : s.schema.entityType? p.definition.entityType = some t := hsearches.known
    dsimp only
    rw [onBackend_on (hsearches.find_on hc), hknown]
    rfl

theorem findInEach_on {condition : Condition} (hc : condition.Askable) (l : List Configuration)
    {s : Service} (h : s.Searchable) :
    ∃ s', Counts s s' ∧
      (findInEach condition l).on s = (.ok (l.map fun c => .ok (s.found condition c)), s') := by
  induction l generalizing s with
  | nil => exact ⟨s, .refl, rfl⟩
  | cons c rest ih =>
    have hobserved {t : Service}
        (hfound : (findIn c condition).on s = (.ok (s.found condition c), t)) :
        (findInEach.observing (findIn c condition)).on s =
          (.ok (.ok (s.found condition c)), t) := by
      unfold findInEach.observing
      rw [Step.on_tryCatch, Step.on_bind_ok hfound]
      rfl
    unfold findInEach
    rcases findIn_on h hc c with hfound | hfound
    · obtain ⟨s', hcounts, hrest⟩ := ih h
      refine ⟨s', hcounts, ?_⟩
      rw [Step.on_bind_ok (hobserved hfound), Step.on_bind_ok hrest]
      rfl
    · obtain ⟨s', hcounts, hrest⟩ := ih h.counted
      rw [found_counted h] at hrest
      refine ⟨s', .trans (.counted .refl) hcounts, ?_⟩
      rw [Step.on_bind_ok (hobserved hfound), Step.on_bind_ok hrest]
      rfl

theorem joined_ok (l : List (List SynonymResult)) : joined (l.map Except.ok) = .ok l.flatten := by
  induction l with
  | nil => rfl
  | cons found rest ih =>
    rw [List.map_cons, joined, ih]
    rfl

theorem mem_distinct {α : Type} [BEq α] [LawfulBEq α] (l : List α) (a : α) :
    a ∈ distinct l ↔ a ∈ l := by
  have hseen (seen : List α) :
      a ∈ l.foldl (fun seen a => if seen.contains a then seen else a :: seen)
      seen ↔ a ∈ seen ∨ a ∈ l := by
    induction l generalizing seen with
    | nil => simp
    | cons b rest ih =>
      rw [List.foldl_cons, ih]
      by_cases hb : seen.contains b = true
      · rw [if_pos hb, List.mem_cons]
        have hmem : b ∈ seen := by simpa using hb
        constructor
        · exact fun h => h.imp id .inr
        · rintro (h | rfl | h)
          · exact .inl h
          · exact .inl hmem
          · exact .inr h
      · rw [if_neg hb, List.mem_cons, List.mem_cons]
        tauto
  unfold distinct
  rw [List.mem_reverse, hseen]
  simp

end Lookup
end SynonymLookup
