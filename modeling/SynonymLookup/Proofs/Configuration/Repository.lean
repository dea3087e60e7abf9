import SynonymLookup.Proofs.Configuration.Stored

/-! What each step of the repository does: the lists it answers, and how it leaves the settings, the
cached lists and the tags. -/

namespace SynonymLookup
namespace Repository

open Service

theorem allow_on (a : Access) (s : Service) :
    (s.Up a ∧ (allow a).on s = (.ok (), s)) ∨
      ∃ e, ¬ s.Up a ∧ (allow a).on s = (.error e, s) := by
  have h : (allow a).on s = ((s.backend.outages.allow a).mapError .storage, s) := Step.on_read _ s
  rw [h]
  by_cases ha : s.Up a
  · rw [Backend.allow_of_up ha]
    exact .inl ⟨ha, rfl⟩
  · have hdown : s.backend.outages.down.contains a = true := by
      by_contra hup
      exact ha (by simpa [Up, Backend.Up] using hup)
    rw [Outages.allow, if_pos hdown]
    exact .inr ⟨_, ha, rfl⟩

theorem getBlob_on (key : String) (s : Service) :
    (s.Up .configGet ∧ (getBlob key).on s = (.ok (s.blobs.get? key), s)) ∨
      ∃ e, ¬ s.Up .configGet ∧ (getBlob key).on s = (.error e, s) := by
  unfold getBlob
  rcases allow_on .configGet s with ⟨hup, hallow⟩ | ⟨e, hdown, hallow⟩
  · exact .inl ⟨hup, Step.on_bind_ok hallow⟩
  · exact .inr ⟨e, hdown, Step.on_bind_error hallow⟩

theorem getBlob_of_up {s : Service} (up : s.Up .configGet) (key : String) :
    (getBlob key).on s = (.ok (s.blobs.get? key), s) := by
  rcases getBlob_on key s with ⟨-, hblob⟩ | ⟨e, hdown, -⟩
  · exact hblob
  · exact absurd up hdown

theorem getProperty_on (key property : String) (s : Service) :
    (getProperty key property).on s =
      (.ok ((s.blobs.get? key).bind fun j => j.field? property), s) ∨
    ∃ e, (getProperty key property).on s = (.error e, s) := by
  unfold getProperty
  rcases getBlob_on key s with ⟨-, hblob⟩ | ⟨e, -, hblob⟩
  · exact .inl (Step.on_bind_ok hblob)
  · exact .inr ⟨e, Step.on_bind_error hblob⟩

/-- Reading a stored value leaves the state, and fails only where the access is out of
service or the blob is malformed. -/
theorem getStored_on {α : Type} [Stored α] (key : String) (s : Service) :
    (s.blobs.get? key = none ∧ (getStored α key).on s = (.ok none, s)) ∨
    (∃ j a, s.blobs.get? key = some j ∧ JsonForm.ofJson? j = some a ∧
      (getStored α key).on s = (.ok (some a), s)) ∨
    ∃ e, (getStored α key).on s = (.error e, s) ∧ (s.Up .configGet →
      ∃ j, s.blobs.get? key = some j ∧ (JsonForm.ofJson? j : Option α) = none) := by
  unfold getStored
  rcases getBlob_on key s with ⟨-, hblob⟩ | ⟨e, hdown, hblob⟩
  · rw [Step.on_bind_ok hblob]
    rcases hj : s.blobs.get? key with _ | j
    · exact .inl ⟨rfl, rfl⟩
    · rcases ha : (JsonForm.ofJson? j : Option α) with _ | a
      · exact .inr (.inr ⟨_, by simp only [ha]; rfl, fun _ => ⟨j, rfl, ha⟩⟩)
      · exact .inr (.inl ⟨j, a, rfl, ha, by simp only [ha]; rfl⟩)
  · exact .inr (.inr ⟨e, Step.on_bind_error hblob, fun h => absurd h hdown⟩)

theorem getStored_of_get? {α : Type} [Stored α] {s : Service} (up : s.Up .configGet) {key : String}
    {j : Json} {a : α} (h : s.blobs.get? key = some j) (hread : JsonForm.ofJson? j = some a) :
    (getStored α key).on s = (.ok (some a), s) := by
  simp only [getStored, Step.on_bind_ok (getBlob_of_up up key), h, hread, Step.on_pure]

theorem load_on (id : String) (s : Service) :
    (load id).on s = (.ok none, s) ∨ (∃ c, s.holds id c ∧ (load id).on s = (.ok (some c), s)) ∨
      ∃ e, (load id).on s = (.error e, s) := by
  rcases getStored_on (α := Configuration) (Configuration.keyOf id) s with
    ⟨-, h⟩ | ⟨j, c, hj, hc, h⟩ | ⟨e, h, -⟩
  · exact .inl h
  · exact .inr (.inl ⟨c, ⟨j, hj, hc⟩, h⟩)
  · exact .inr (.inr ⟨e, h⟩)

theorem require_on (id : String) (s : Service) :
    (∃ c, s.holds id c ∧ (require id).on s = (.ok c, s)) ∨
      ∃ e, (require id).on s = (.error e, s) := by
  unfold require
  rcases load_on id s with h | ⟨c, hc, h⟩ | ⟨e, h⟩
  · exact .inr ⟨_, Step.on_bind_ok h⟩
  · exact .inl ⟨c, hc, Step.on_bind_ok h⟩
  · exact .inr ⟨e, Step.on_bind_error h⟩

/-- The configurations of the readable blobs among some keys are answered, or none at all. -/
theorem loadKeys_on (keys : List String) (s : Service) :
    (loadKeys keys).on s =
      (.ok (keys.filterMap fun key => (s.blobs.get? key).bind Configuration.ofJson?), s) ∨
    ∃ e, (loadKeys keys).on s = (.error e, s) ∧ (s.Up .configGet →
      ∃ key ∈ keys, ∃ j, s.blobs.get? key = some j ∧ Configuration.ofJson? j = none) := by
  induction keys with
  | nil => exact .inl rfl
  | cons key rest ih =>
    have hrest (found : Option Configuration) :
        (do return found.toList ++ (← loadKeys rest) : Action (List Configuration)).on s =
          match (loadKeys rest).on s with
            | (.ok l, t) => (.ok (found.toList ++ l), t)
            | (.error e, t) => (.error e, t) := by
      rw [Step.on_bind]
      rcases (loadKeys rest).on s with ⟨_ | _, t⟩ <;> rfl
    unfold loadKeys
    rcases getStored_on (α := Configuration) key s with ⟨hj, h⟩ | ⟨j, c, hj, hc, h⟩ | ⟨e, h, hbad⟩
    · rw [Step.on_bind_ok h, hrest]
      rcases ih with ih | ⟨e, ih, hbad⟩
      · left
        simp [ih, hj]
      · right
        refine ⟨e, by rw [ih], fun hup => ?_⟩
        obtain ⟨k, hk, hread⟩ := hbad hup
        exact ⟨k, List.mem_cons_of_mem _ hk, hread⟩
    · rw [Step.on_bind_ok h, hrest]
      rcases ih with ih | ⟨e, ih, hbad⟩
      · left
        replace hc : Configuration.ofJson? j = some c := hc
        simp [ih, hj, hc]
      · right
        refine ⟨e, by rw [ih], fun hup => ?_⟩
        obtain ⟨k, hk, hread⟩ := hbad hup
        exact ⟨k, List.mem_cons_of_mem _ hk, hread⟩
    · right
      refine ⟨e, Step.on_bind_error h, fun hup => ?_⟩
      exact ⟨key, List.mem_cons_self, hbad hup⟩

/-- All configurations are answered unless an access is out of service or a blob malformed. -/
theorem loadAll_on (s : Service) :
    loadAll.on s = (.ok s.stored, s) ∨
    ∃ e, loadAll.on s = (.error e, s) ∧ (s.Up .configList → s.Up .configGet → ¬ s.WellFormed) := by
  unfold loadAll listKeys
  rcases allow_on .configList s with ⟨-, hallow⟩ | ⟨e, hdown, hallow⟩
  · have hkeys : (do allow .configList; return (← get).blobs.keysFrom Configuration.keyHead :
        Action (List String)).on s = (.ok (s.blobs.keysFrom Configuration.keyHead), s) :=
      Step.on_bind_ok hallow
    rw [Step.on_bind_ok hkeys]
    rcases loadKeys_on (s.blobs.keysFrom Configuration.keyHead) s with h | ⟨e, h, hbad⟩
    · left
      rw [h, filterMap_keysFrom]
    · right
      refine ⟨e, h, fun _ hup hwell => ?_⟩
      obtain ⟨key, hkey, j, hj, hread⟩ := hbad hup
      have hvalue : j ∈ s.configurationBlobs.values := by
        rw [KeyMap.mem_values_iff]
        refine ⟨key, ?_⟩
        rw [get?_configurationBlobs, if_pos (List.mem_filter.1 hkey).2, hj]
      simpa [hread] using hwell j hvalue
  · exact .inr ⟨e, Step.on_bind_error (Step.on_bind_error hallow), fun hup => absurd hup hdown⟩

theorem loadFor_on (entityType bundle : String) (s : Service) :
    (loadFor entityType bundle).on s = match s.cached.get? (bundleTag entityType bundle) with
      | some list => (.ok list, s)
      | none => match loadAll.on s with
        | (.ok _, _) => (.ok (s.listed entityType bundle), s.remember entityType bundle)
        | (.error e, _) => (.error e, s) := by
  unfold loadFor
  rw [Step.on_bind_ok (Step.on_get s)]
  cases s.cached.get? (bundleTag entityType bundle) with
  | some list => rfl
  | none =>
    rcases loadAll_on s with h | ⟨e, h, -⟩
    · simp only [h]
      exact Step.on_bind_ok h
    · simp only [h]
      exact Step.on_bind_error h

theorem exists_loadFor {s : Service} (wellFormed : s.WellFormed) (hlist : s.Up .configList)
    (hget : s.Up .configGet) (entityType bundle : String) :
    ∃ list, ((loadFor entityType bundle).on s).1 = .ok list := by
  rw [loadFor_on]
  cases s.cached.get? (bundleTag entityType bundle) with
  | some list => exact ⟨list, rfl⟩
  | none =>
    rcases loadAll_on s with h | ⟨e, -, hbad⟩
    · rw [h]
      exact ⟨_, rfl⟩
    · exact absurd wellFormed (hbad hlist hget)

theorem loadFor_eq_ok {entityType bundle : String} {s t : Service} {list : List Configuration}
    (h : (loadFor entityType bundle).on s = (.ok list, t)) :
    (s.cached.get? (bundleTag entityType bundle) = some list ∧ t = s) ∨
      (list = s.listed entityType bundle ∧ t = s.remember entityType bundle) := by
  rw [loadFor_on] at h
  cases hcached : s.cached.get? (bundleTag entityType bundle) with
  | some cached =>
    rw [hcached] at h
    cases h
    exact .inl ⟨rfl, rfl⟩
  | none =>
    rw [hcached] at h
    rcases loadAll_on s with hall | ⟨e, hall, -⟩
    · simp only [hall] at h
      cases h
      exact .inr ⟨rfl, rfl⟩
    · simp only [hall] at h
      cases h

theorem cached_of_loadFor {entityType bundle : String} {s t : Service} {list : List Configuration}
    (h : (loadFor entityType bundle).on s = (.ok list, t)) :
    t.cached.get? (bundleTag entityType bundle) = some list := by
  rcases loadFor_eq_ok h with ⟨hcached, rfl⟩ | ⟨rfl, rfl⟩
  · exact hcached
  · simp [Service.remember]

theorem invalidateFor_on (c : Configuration) (s : Service) :
    (invalidateFor c).on s = (.ok (), s.dropFor c) := by
  unfold invalidateFor dropFor
  cases c.cacheTag? <;> rfl

theorem setBlob_on (key : String) (value : Json) (s : Service) :
    (s.Up .configSet ∧
      (setBlob key value).on s = (.ok (), { s with blobs := s.blobs.insert key value })) ∨
    ∃ e, ¬ s.Up .configSet ∧ (setBlob key value).on s = (.error e, s) := by
  unfold setBlob
  rcases allow_on .configSet s with ⟨hup, hallow⟩ | ⟨e, hdown, hallow⟩
  · exact .inl ⟨hup, Step.on_bind_ok hallow⟩
  · exact .inr ⟨e, hdown, Step.on_bind_error hallow⟩

theorem save_on (c : Configuration) (s : Service) :
    (save c).on s = (.ok (), s.put c) ∨ ∃ e, (save c).on s = (.error e, s) := by
  have hput : (do setStored c.key c; invalidateFor c : Action Unit).on s = (.ok (), s.put c) ∨
      ∃ e, (do setStored c.key c; invalidateFor c : Action Unit).on s = (.error e, s) := by
    unfold setStored
    rcases setBlob_on c.key (JsonForm.toJson c) s with ⟨-, hset⟩ | ⟨e, -, hset⟩
    · left
      rw [Step.on_bind_ok hset]
      exact invalidateFor_on c _
    · exact .inr ⟨e, Step.on_bind_error hset⟩
  unfold save
  rw [Step.on_bind_ok (Step.on_get s)]
  dsimp only
  split
  · exact .inr ⟨_, Step.on_bind_error (Step.on_throw _ s)⟩
  · exact hput

theorem deleteBlob_on (key : String) (s : Service) :
    (deleteBlob key).on s = (.ok (), { s with blobs := s.blobs.erase key }) ∨
      ∃ e, (deleteBlob key).on s = (.error e, s) := by
  unfold deleteBlob
  rcases allow_on .configDelete s with ⟨-, hallow⟩ | ⟨e, -, hallow⟩
  · exact .inl (Step.on_bind_ok hallow)
  · exact .inr ⟨e, Step.on_bind_error hallow⟩

theorem delete_on (id : String) (s : Service) :
    (∃ r, (delete id).on s = (r, s)) ∨
      ∃ c, s.holds id c ∧ (delete id).on s = (.ok true, s.remove c) := by
  unfold delete
  rcases load_on id s with h | ⟨c, hc, h⟩ | ⟨e, h⟩
  · exact .inl ⟨_, Step.on_bind_ok h⟩
  · rw [Step.on_bind_ok h]
    rcases deleteBlob_on c.key s with herase | ⟨e, herase⟩
    · right
      refine ⟨c, hc, ?_⟩
      simp only [Step.on_bind_ok herase, Step.on_bind_ok (invalidateFor_on c _)]
      rfl
    · exact .inl ⟨_, Step.on_bind_error herase⟩
  · exact .inl ⟨_, Step.on_bind_error h⟩

theorem provider_on (c : Configuration) (s : Service) :
    (provider c).on s = (c.provider s.registry s.schema, s) := by
  unfold provider
  rw [Step.on_bind_ok (Step.on_get s)]
  exact Step.on_ofExcept _ s

theorem form_on (id : String) (wordingType : WordingType) (s : Service) :
    ((form id wordingType).on s).2 = s := by
  unfold form
  rcases require_on id s with ⟨c, -, h⟩ | ⟨e, h⟩
  · rw [Step.on_bind_ok h, Step.on_bind, provider_on]
    cases c.provider s.registry s.schema <;> rfl
  · rw [Step.on_bind_error h]

theorem submit_on (id : String) (values : Json) (s : Service) :
    (∃ e, (submit id values).on s = (.error e, s)) ∨
      ∃ c p, s.holds id c ∧ c.provider s.registry s.schema = .ok p ∧
        (submit id values).on s = (.ok { c with settings := p.configuration.submit values },
          s.put { c with settings := p.configuration.submit values }) := by
  unfold submit
  rcases require_on id s with ⟨c, hc, h⟩ | ⟨e, h⟩
  · rw [Step.on_bind_ok h]
    rcases hp : c.provider s.registry s.schema with e | p
    · have he : (provider c).on s = (.error e, s) := by rw [provider_on, hp]
      exact .inl ⟨e, Step.on_bind_error he⟩
    · have hok : (provider c).on s = (.ok p, s) := by rw [provider_on, hp]
      rw [Step.on_bind_ok hok]
      dsimp only
      split
      · exact .inl ⟨_, Step.on_bind_error (Step.on_throw _ s)⟩
      · rcases save_on { c with settings := p.configuration.submit values } s with hs | ⟨e, hs⟩
        · exact .inr ⟨c, p, hc, hp, Step.on_bind_ok hs⟩
        · exact .inl ⟨e, Step.on_bind_error hs⟩
  · exact .inl ⟨e, Step.on_bind_error h⟩

theorem loadAll_of_readable {s : Service} (h : s.Readable) : loadAll.on s = (.ok s.stored, s) := by
  rcases loadAll_on s with hall | ⟨e, -, hbad⟩
  · exact hall
  · exact absurd h.wellFormed (hbad h.list h.get)

end Repository
end SynonymLookup
