import SynonymLookup.Configuration.Repository
import SynonymLookup.Proofs.Backend
import SynonymLookup.Proofs.Configuration.Reading
import SynonymLookup.Proofs.Provider.PluginId

/-! The configurations that the settings hold, and the steps of the repository as changes to the
settings, the cached lists and the tags. -/

namespace SynonymLookup
namespace Service

def configurationBlobs (s : Service) : Blobs :=
  s.blobs.filter fun key _ => Text.startsWith key Configuration.keyHead

/-- The configurations in key order; a blob that is none is passed over. -/
def stored (s : Service) : List Configuration :=
  s.configurationBlobs.values.filterMap Configuration.ofJson?

def listed (s : Service) (entityType bundle : String) : List Configuration :=
  s.stored.filter fun c => c.controls entityType bundle

def holds (s : Service) (id : String) (c : Configuration) : Prop :=
  ∃ j, s.blobs.get? (Configuration.keyOf id) = some j ∧ Configuration.ofJson? j = some c

/-- Every blob of a configuration reads as one. -/
def WellFormed (s : Service) : Prop :=
  ∀ j ∈ s.configurationBlobs.values, (Configuration.ofJson? j).isSome

def OwnKeys (s : Service) : Prop :=
  ∀ key j c, s.configurationBlobs.get? key = some j → Configuration.ofJson? j = some c → c.key = key

def Up (s : Service) (a : Access) : Prop := s.backend.Up a

structure Readable (s : Service) : Prop where
  list : s.Up .configList
  get : s.Up .configGet
  wellFormed : s.WellFormed

def dropCached (s : Service) (tag : String) : Service :=
  { s with cached := s.cached.erase tag, tags := s.tags.invalidate [tag] }

def dropFor (s : Service) (c : Configuration) : Service :=
  match c.cacheTag? with
  | some tag => s.dropCached tag
  | none => s

def put (s : Service) (c : Configuration) : Service :=
  dropFor { s with blobs := s.blobs.insert c.key c.toJson } c

def remove (s : Service) (c : Configuration) : Service :=
  dropFor { s with blobs := s.blobs.erase c.key } c

def remember (s : Service) (entityType bundle : String) : Service :=
  { s with cached := s.cached.insert (bundleTag entityType bundle) (s.listed entityType bundle) }

@[simp] theorem dropFor_blobs (s : Service) (c : Configuration) :
    (s.dropFor c).blobs = s.blobs := by unfold dropFor; split <;> rfl

@[simp] theorem put_blobs (s : Service) (c : Configuration) :
    (s.put c).blobs = s.blobs.insert c.key c.toJson := dropFor_blobs _ c

@[simp] theorem remove_blobs (s : Service) (c : Configuration) :
    (s.remove c).blobs = s.blobs.erase c.key := dropFor_blobs _ c

theorem dropFor_registry (s : Service) (c : Configuration) :
    (s.dropFor c).registry = s.registry := by unfold dropFor; split <;> rfl

theorem put_registry (s : Service) (c : Configuration) : (s.put c).registry = s.registry :=
  dropFor_registry _ c

theorem remove_registry (s : Service) (c : Configuration) : (s.remove c).registry = s.registry :=
  dropFor_registry _ c

theorem dropFor_backend (s : Service) (c : Configuration) :
    (s.dropFor c).backend = s.backend := by unfold dropFor; split <;> rfl

theorem up_put {s : Service} {c : Configuration} {a : Access} : (s.put c).Up a ↔ s.Up a := by
  unfold Up put
  rw [dropFor_backend]

theorem up_remove {s : Service} {c : Configuration} {a : Access} : (s.remove c).Up a ↔ s.Up a := by
  unfold Up remove
  rw [dropFor_backend]

theorem startsWith_keyOf (id : String) :
    Text.startsWith (Configuration.keyOf id) Configuration.keyHead = true := by
  unfold Text.startsWith
  rw [Option.isSome_iff_exists]
  exact ⟨id.toList, Text.stripHead?_eq_some.2 (by simp [Configuration.keyOf])⟩

theorem keyOf_inj {id id' : String} (h : Configuration.keyOf id = Configuration.keyOf id') :
    id = id' := by
  simpa [Configuration.keyOf] using h

theorem get?_configurationBlobs (s : Service) (key : String) :
    s.configurationBlobs.get? key =
      if Text.startsWith key Configuration.keyHead then s.blobs.get? key else none := by
  unfold configurationBlobs
  rw [KeyMap.get?_filter]
  cases s.blobs.get? key <;> simp [Option.filter]

theorem get?_configurationBlobs_keyOf (s : Service) (id : String) :
    s.configurationBlobs.get? (Configuration.keyOf id) = s.blobs.get? (Configuration.keyOf id) := by
  rw [get?_configurationBlobs, if_pos (startsWith_keyOf id)]

theorem holds_unique {s : Service} {id : String} {c c' : Configuration} (h : s.holds id c)
    (h' : s.holds id c') : c = c' := by
  obtain ⟨j, hj, hread⟩ := h
  obtain ⟨j', hj', hread'⟩ := h'
  rw [hj, Option.some.injEq] at hj'
  rw [← hj', hread, Option.some.injEq] at hread'
  exact hread'

theorem OwnKeys.id_eq {s : Service} (h : s.OwnKeys) {id : String} {c : Configuration}
    (hc : s.holds id c) : c.id = id := by
  obtain ⟨j, hj, hread⟩ := hc
  rw [← get?_configurationBlobs_keyOf] at hj
  exact keyOf_inj (h _ j c hj hread)

theorem mem_stored_iff {s : Service} (h : s.OwnKeys) {c : Configuration} :
    c ∈ s.stored ↔ s.holds c.id c := by
  unfold stored holds
  rw [List.mem_filterMap]
  constructor
  · rintro ⟨j, hj, hread⟩
    obtain ⟨key, hkey⟩ := KeyMap.mem_values_iff.1 hj
    have hown := h key j c hkey hread
    rw [← hown] at hkey
    exact ⟨j, by rw [← get?_configurationBlobs_keyOf]; exact hkey, hread⟩
  · rintro ⟨j, hj, hread⟩
    rw [← get?_configurationBlobs_keyOf] at hj
    exact ⟨j, KeyMap.mem_values_iff.2 ⟨_, hj⟩, hread⟩

theorem filterMap_keysFrom (s : Service) :
    ((s.blobs.keysFrom Configuration.keyHead).filterMap fun key =>
      (s.blobs.get? key).bind Configuration.ofJson?) = s.stored := by
  have h := KeyMap.filterMap_get?_keys s.blobs fun key j =>
    if Text.startsWith key Configuration.keyHead then Configuration.ofJson? j else none
  simp only [stored, configurationBlobs, KeyMap.filter, KeyMap.values, List.filterMap_map,
    List.filterMap_filter, Blobs.keysFrom, Function.comp_def]
  rw [← h]
  apply List.filterMap_congr
  intro key _
  split <;> cases s.blobs.get? key <;> simp [*]

/-- What one entry of the settings adds to the list of a bundle. -/
def listedEntry (entityType bundle : String) (e : String × Json) : Option Configuration :=
  if Text.startsWith e.1 Configuration.keyHead then
    (Configuration.ofJson? e.2).filter fun c => c.controls entityType bundle
  else none

theorem listed_eq (s : Service) (entityType bundle : String) :
    s.listed entityType bundle = s.blobs.entries.filterMap (listedEntry entityType bundle) := by
  simp only [listed, stored, configurationBlobs, KeyMap.filter, KeyMap.values,
    List.filterMap_map, List.filterMap_filter, List.filter_filterMap]
  apply List.filterMap_congr
  intro e _
  unfold listedEntry
  split <;> simp [*]

theorem listed_congr {s s' : Service} (h : s'.configurationBlobs = s.configurationBlobs)
    (entityType bundle : String) : s'.listed entityType bundle = s.listed entityType bundle := by
  unfold listed stored
  rw [h]

theorem mem_listed_iff {s : Service} (h : s.OwnKeys) {entityType bundle : String}
    {c : Configuration} :
    c ∈ s.listed entityType bundle ↔ s.holds c.id c ∧ c.controls entityType bundle = true := by
  rw [listed, List.mem_filter, mem_stored_iff h]

theorem keyOf_lt_keyOf {id id' : String} :
    Configuration.keyOf id < Configuration.keyOf id' ↔ id < id' := by
  have hhead (head rest rest' : List Char) : head ++ rest < head ++ rest' ↔ rest < rest' := by
    induction head with
    | nil => rfl
    | cons c head ih => simpa using ih
  simp only [String.lt_iff, Configuration.keyOf, String.toList_append, hhead]

/-- Configurations that are stored under their own ids are listed in the order of their ids. -/
theorem OwnKeys.stored_sorted {s : Service} (h : s.OwnKeys) :
    s.stored.Pairwise fun c c' => c.id < c'.id := by
  have hentries : s.configurationBlobs.entries.Pairwise fun e e' =>
      ∀ c, Configuration.ofJson? e.2 = some c →
      ∀ c', Configuration.ofJson? e'.2 = some c' → c.id < c'.id := by
    refine s.configurationBlobs.sorted.imp_of_mem fun {e e'} he he' hlt c hc c' hc' => ?_
    have hkey := h e.1 e.2 c (KeyMap.get?_eq_some_iff.2 he) hc
    have hkey' := h e'.1 e'.2 c' (KeyMap.get?_eq_some_iff.2 he') hc'
    rw [← hkey, ← hkey'] at hlt
    exact keyOf_lt_keyOf.1 hlt
  simp only [stored, KeyMap.values, List.filterMap_map, List.pairwise_filterMap]
  exact hentries

theorem OwnKeys.listed_sorted {s : Service} (h : s.OwnKeys) (entityType bundle : String) :
    (s.listed entityType bundle).Pairwise fun c c' => c.id < c'.id := h.stored_sorted.filter _

theorem cached_of_dropCached {s : Service} {tag key : String} {list : List Configuration}
    (h : (s.dropCached tag).cached.get? key = some list) : s.cached.get? key = some list := by
  unfold dropCached at h
  rw [KeyMap.get?_erase] at h
  split at h
  · cases h
  · exact h

theorem cached_dropFor (s : Service) (c : Configuration) (entityType bundle : String) :
    (s.dropFor c).cached.get? (bundleTag entityType bundle) =
      if c.controls entityType bundle then none
      else s.cached.get? (bundleTag entityType bundle) := by
  have htag := @Configuration.cacheTag?_eq_some_iff c entityType bundle
  unfold dropFor
  cases hc : c.cacheTag? with
  | none => simp [← htag, hc]
  | some tag =>
    have heq : tag = bundleTag entityType bundle ↔ c.controls entityType bundle = true := by
      rw [← htag, hc, Option.some.injEq]
    simp [dropCached, heq]

theorem invalidations_dropFor (s : Service) (c : Configuration) (entityType bundle : String) :
    (s.dropFor c).tags.invalidations (bundleTag entityType bundle) =
      s.tags.invalidations (bundleTag entityType bundle) +
        if c.controls entityType bundle then 1 else 0 := by
  have htag := @Configuration.cacheTag?_eq_some_iff c entityType bundle
  unfold dropFor
  cases hc : c.cacheTag? with
  | none => simp [← htag, hc]
  | some tag =>
    have heq : tag = bundleTag entityType bundle ↔ c.controls entityType bundle = true := by
      rw [← htag, hc, Option.some.injEq]
    show (s.tags.invalidate [tag]).invalidations _ = _
    rw [CacheTags.invalidations_invalidate, List.count_singleton]
    simp [heq]

theorem cached_put (s : Service) (c : Configuration) (entityType bundle : String) :
    (s.put c).cached.get? (bundleTag entityType bundle) =
      if c.controls entityType bundle then none
      else s.cached.get? (bundleTag entityType bundle) := cached_dropFor _ c entityType bundle

theorem invalidations_put (s : Service) (c : Configuration) (entityType bundle : String) :
    (s.put c).tags.invalidations (bundleTag entityType bundle) =
      s.tags.invalidations (bundleTag entityType bundle) +
        if c.controls entityType bundle then 1 else 0 := invalidations_dropFor _ c entityType bundle

theorem configurationBlobs_put {s : Service} {c : Configuration} {key : String} {j : Json}
    (h : (s.put c).configurationBlobs.get? key = some j) :
    (key = c.key ∧ j = c.toJson) ∨ s.configurationBlobs.get? key = some j := by
  rw [get?_configurationBlobs, put_blobs] at h
  split at h
  · rename_i hhead
    by_cases hkey : c.key = key
    · rw [KeyMap.get?_insert, if_pos hkey, Option.some.injEq] at h
      exact .inl ⟨hkey.symm, h.symm⟩
    · rw [KeyMap.get?_insert, if_neg hkey] at h
      right
      rw [get?_configurationBlobs, if_pos hhead, h]
  · cases h

theorem configurationBlobs_remove {s : Service} {c : Configuration} {key : String} {j : Json}
    (h : (s.remove c).configurationBlobs.get? key = some j) :
    s.configurationBlobs.get? key = some j := by
  rw [get?_configurationBlobs, remove_blobs] at h
  split at h
  · rename_i hhead
    by_cases hkey : c.key = key
    · rw [KeyMap.get?_erase, if_pos hkey] at h
      cases h
    · rw [KeyMap.get?_erase, if_neg hkey] at h
      rw [get?_configurationBlobs, if_pos hhead, h]
  · cases h

theorem OwnKeys.put {s : Service} (h : s.OwnKeys) (c : Configuration) : (s.put c).OwnKeys := by
  intro key j found hj hread
  rcases configurationBlobs_put hj with ⟨rfl, rfl⟩ | hj
  · rw [Configuration.key, Configuration.key, (Configuration.ofJson?_toJson_names hread).1]
  · exact h key j found hj hread

theorem OwnKeys.remove {s : Service} (h : s.OwnKeys) (c : Configuration) : (s.remove c).OwnKeys :=
  fun key j found hj => h key j found (configurationBlobs_remove hj)

theorem OwnKeys.congr {s s' : Service} (h : s.OwnKeys)
    (heq : s'.configurationBlobs = s.configurationBlobs) : s'.OwnKeys := by
  intro key j c hj
  rw [heq] at hj
  exact h key j c hj

theorem wellFormed_iff {s : Service} :
    s.WellFormed ↔ ∀ key j, s.configurationBlobs.get? key = some j →
      (Configuration.ofJson? j).isSome := by
  unfold WellFormed
  simp only [KeyMap.mem_values_iff]
  exact ⟨fun h key j hj => h j ⟨key, hj⟩, fun h j ⟨key, hj⟩ => h key j hj⟩

theorem WellFormed.put {s : Service} (h : s.WellFormed) {c : Configuration}
    (hread : (Configuration.ofJson? c.toJson).isSome) : (s.put c).WellFormed := by
  rw [wellFormed_iff] at h ⊢
  intro key j hj
  rcases configurationBlobs_put hj with ⟨-, rfl⟩ | hj
  · exact hread
  · exact h key j hj

theorem WellFormed.remove {s : Service} (h : s.WellFormed) (c : Configuration) :
    (s.remove c).WellFormed := by
  rw [wellFormed_iff] at h ⊢
  exact fun key j hj => h key j (configurationBlobs_remove hj)

theorem WellFormed.congr {s s' : Service} (h : s.WellFormed)
    (heq : s'.configurationBlobs = s.configurationBlobs) : s'.WellFormed := by
  intro j hj
  rw [heq] at hj
  exact h j hj

theorem controls_of_holds_put {s : Service} {c found : Configuration}
    (h : (s.put c).holds c.id found) (entityType bundle : String) :
    found.controls entityType bundle = c.controls entityType bundle := by
  obtain ⟨j, hj, hread⟩ := h
  rw [put_blobs, KeyMap.get?_insert, if_pos (show c.key = Configuration.keyOf c.id from rfl)] at hj
  cases hj
  have hplugin := (Configuration.ofJson?_toJson_names hread).2
  exact Configuration.controls_of_plugin_eq hplugin entityType bundle

/-- A configuration of the bundle under the id of `c` makes way for another of the bundle. -/
def KeepsBundle (s : Service) (c : Configuration) (entityType bundle : String) : Prop :=
  ∀ old, s.holds c.id old → old.controls entityType bundle = true →
    c.controls entityType bundle = true

theorem not_keepsBundle_iff {s : Service} {c : Configuration} {entityType bundle : String} :
    ¬ s.KeepsBundle c entityType bundle ↔
      ∃ old, s.holds c.id old ∧ old.controls entityType bundle = true ∧
        ¬ c.controls entityType bundle = true := by
  simp [KeepsBundle]

theorem keepsBundle_of_holds {s : Service} (h : s.OwnKeys) {id : String} {c c' : Configuration}
    (hc : s.holds id c) (hid : c'.id = c.id) (hplugin : c'.plugin = c.plugin)
    (entityType bundle : String) : s.KeepsBundle c' entityType bundle := by
  intro old hold hcontrols
  rw [hid, h.id_eq hc] at hold
  rwa [Configuration.controls_of_plugin_eq hplugin, holds_unique hc hold]

theorem listedEntry_eq_none {entityType bundle key : String} {j : Json}
    (h : ∀ c, Configuration.ofJson? j = some c → ¬ c.controls entityType bundle = true) :
    listedEntry entityType bundle (key, j) = none := by
  unfold listedEntry
  split
  · rw [Option.filter_eq_none_iff]
    exact h
  · rfl

theorem listedEntry_toJson {c : Configuration} {entityType bundle : String}
    (hnew : ¬ c.controls entityType bundle = true) (key : String) :
    listedEntry entityType bundle (key, c.toJson) = none := by
  refine listedEntry_eq_none fun found hread => ?_
  rwa [Configuration.controls_of_plugin_eq (Configuration.ofJson?_toJson_names hread).2]

theorem listedEntry_of_keepsBundle {s : Service} {c : Configuration} {entityType bundle : String}
    (hkeeps : s.KeepsBundle c entityType bundle) (hnew : ¬ c.controls entityType bundle = true)
    {j : Json} (hj : (c.key, j) ∈ s.blobs.entries) :
    listedEntry entityType bundle (c.key, j) = none := by
  refine listedEntry_eq_none fun old hread hcontrols => ?_
  have hold : s.holds c.id old := ⟨j, KeyMap.get?_eq_some_iff.2 hj, hread⟩
  exact hnew (hkeeps old hold hcontrols)

theorem listed_put {s : Service} {c : Configuration} {entityType bundle : String}
    (hkeeps : s.KeepsBundle c entityType bundle) (hnew : ¬ c.controls entityType bundle = true) :
    (s.put c).listed entityType bundle = s.listed entityType bundle := by
  rw [listed_eq, listed_eq, put_blobs]
  apply KeyMap.filterMap_insertEntry
  · exact listedEntry_toJson hnew c.key
  · exact fun j hj => listedEntry_of_keepsBundle hkeeps hnew hj

theorem listed_remove {s : Service} {c : Configuration} {entityType bundle : String}
    (hkeeps : s.KeepsBundle c entityType bundle) (hgone : ¬ c.controls entityType bundle = true) :
    (s.remove c).listed entityType bundle = s.listed entityType bundle := by
  rw [listed_eq, listed_eq, remove_blobs]
  apply KeyMap.filterMap_erase
  exact fun j hj => listedEntry_of_keepsBundle hkeeps hgone hj

/-- A configuration that does not keep the bundle changes the bundle's list. -/
theorem listed_put_ne {s : Service} (h : s.OwnKeys) {c : Configuration} {entityType bundle : String}
    (hkeeps : ¬ s.KeepsBundle c entityType bundle) :
    (s.put c).listed entityType bundle ≠ s.listed entityType bundle := by
  obtain ⟨old, hold, hcontrols, hnew⟩ := not_keepsBundle_iff.1 hkeeps
  have hid := h.id_eq hold
  intro heq
  have hmem : old ∈ (s.put c).listed entityType bundle := by
    rw [heq, mem_listed_iff h, hid]
    exact ⟨hold, hcontrols⟩
  rw [mem_listed_iff (h.put c), hid] at hmem
  rw [controls_of_holds_put hmem.1] at hmem
  exact hnew hmem.2

end Service
end SynonymLookup
