import SynonymLookup.Proofs.Configuration.Repository

/-! Coherence of the cached lists. Whatever operations ran, the cached list of a bundle is the one
that the settings give, and a change of that list invalidates the bundle's tag, unless a save put a
configuration of another bundle under the id of one of this bundle. -/

namespace SynonymLookup
namespace Repository

open Service

inductive Operation where
  | save (c : Configuration)
  | delete (id : String)
  | submit (id : String) (values : Json)
  | form (id : String) (wordingType : WordingType)
  | load (id : String)
  | loadAll
  | loadFor (entityType bundle : String)
  | invalidate (tag : String)
  | clearCache

def Operation.after : Operation → Service → Service
  | save c, s => ((Repository.save c).on s).2
  | delete id, s => ((Repository.delete id).on s).2
  | submit id values, s => ((Repository.submit id values).on s).2
  | form id wordingType, s => ((Repository.form id wordingType).on s).2
  | load id, s => ((Repository.load id).on s).2
  | loadAll, s => (Repository.loadAll.on s).2
  | loadFor entityType bundle, s => ((Repository.loadFor entityType bundle).on s).2
  | invalidate tag, s => ((Repository.invalidate tag).on s).2
  | clearCache, s => (Repository.clearCache.on s).2

/-- All that an operation can do to the state. -/
inductive Effect (s : Service) : Operation → Service → Prop
  | nothing (o : Operation) : Effect s o s
  | remembered (entityType bundle : String) :
      Effect s (.loadFor entityType bundle) (s.remember entityType bundle)
  | invalidated (tag : String) : Effect s (.invalidate tag) (s.dropCached tag)
  | cleared : Effect s .clearCache { s with cached := .empty }
  | saved (c : Configuration) (accepted : ((Repository.save c).on s).1 = .ok ()) :
      Effect s (.save c) (s.put c)
  | submitted (id : String) (values : Json) (c : Configuration) (p : Provider)
      (found : s.holds id c) (made : c.provider s.registry s.schema = .ok p) :
      Effect s (.submit id values) (s.put { c with settings := p.configuration.submit values })
  | deleted (id : String) (c : Configuration) (found : s.holds id c) :
      Effect s (.delete id) (s.remove c)

theorem effect_after (o : Operation) (s : Service) : Effect s o (o.after s) := by
  cases o with
  | save c =>
    show Effect s _ ((Repository.save c).on s).2
    rcases save_on c s with h | ⟨e, h⟩
    · have accepted : ((Repository.save c).on s).1 = .ok () := by rw [h]
      rw [h]
      exact .saved c accepted
    · rw [h]
      exact .nothing _
  | delete id =>
    show Effect s _ ((Repository.delete id).on s).2
    rcases delete_on id s with ⟨r, h⟩ | ⟨c, hc, h⟩
    · rw [h]
      exact .nothing _
    · rw [h]
      exact .deleted id c hc
  | submit id values =>
    show Effect s _ ((Repository.submit id values).on s).2
    rcases submit_on id values s with ⟨e, h⟩ | ⟨c, p, hc, hp, h⟩
    · rw [h]
      exact .nothing _
    · rw [h]
      exact .submitted id values c p hc hp
  | form id wordingType =>
    show Effect s _ ((Repository.form id wordingType).on s).2
    rw [form_on]
    exact .nothing _
  | load id =>
    show Effect s _ ((Repository.load id).on s).2
    rcases load_on id s with h | ⟨c, -, h⟩ | ⟨e, h⟩
    all_goals rw [h]
    all_goals exact .nothing _
  | loadAll =>
    show Effect s _ (Repository.loadAll.on s).2
    rcases loadAll_on s with h | ⟨e, h, -⟩
    all_goals rw [h]
    all_goals exact .nothing _
  | loadFor entityType bundle =>
    show Effect s _ ((Repository.loadFor entityType bundle).on s).2
    rw [loadFor_on]
    split
    · exact .nothing _
    · split
      · exact .remembered entityType bundle
      · exact .nothing _
  | invalidate tag => exact .invalidated tag
  | clearCache => exact .cleared

theorem Effect.ownKeys {s s' : Service} {o : Operation} (effect : Effect s o s') (h : s.OwnKeys) :
    s'.OwnKeys := by
  cases effect with
  | nothing => exact h
  | remembered => exact h
  | invalidated => exact h
  | cleared => exact h
  | saved c => exact h.put c
  | submitted id values c p => exact h.put _
  | deleted id c => exact h.remove c

/-- The cached list of a bundle, if there is one, is the list that the settings give. -/
def Coherent (s : Service) (entityType bundle : String) : Prop :=
  ∀ list, s.cached.get? (bundleTag entityType bundle) = some list →
    list = s.listed entityType bundle

/-- If an operation changes the list of a bundle, it invalidates the bundle's tag. -/
def Announces (o : Operation) (s : Service) (entityType bundle : String) : Prop :=
  (o.after s).listed entityType bundle ≠ s.listed entityType bundle →
    s.tags.invalidations (bundleTag entityType bundle) <
      (o.after s).tags.invalidations (bundleTag entityType bundle)

/-- A save is accepted that takes the id of a configuration of the bundle for one of another. -/
def Operation.Unbinds (o : Operation) (s : Service) (entityType bundle : String) : Prop :=
  ∃ c, o = .save c ∧ ((Repository.save c).on s).1 = .ok () ∧ ¬ s.KeepsBundle c entityType bundle

theorem keepsBundle_of_not_unbinds {c : Configuration} {s : Service} {entityType bundle : String}
    (h : ¬ (Operation.save c).Unbinds s entityType bundle)
    (accepted : ((Repository.save c).on s).1 = .ok ()) : s.KeepsBundle c entityType bundle := by
  by_contra hkeeps
  exact h ⟨c, rfl, accepted, hkeeps⟩

theorem not_unbinds_loadFor (s : Service) (entityType' bundle' entityType bundle : String) :
    ¬ (Operation.loadFor entityType' bundle').Unbinds s entityType bundle := by
  rintro ⟨c, hc, -⟩
  cases hc

theorem after_of_unbinds {o : Operation} {s : Service} {entityType bundle : String}
    (h : o.Unbinds s entityType bundle) :
    ∃ c, o.after s = s.put c ∧ ¬ s.KeepsBundle c entityType bundle := by
  obtain ⟨c, rfl, accepted, hkeeps⟩ := h
  refine ⟨c, ?_, hkeeps⟩
  show ((Repository.save c).on s).2 = s.put c
  rcases save_on c s with h | ⟨e, h⟩
  · rw [h]
  · rw [h] at accepted
    cases accepted

/-- Dropping the list of a configuration invalidates the tag of its bundle, which is the only bundle
whose list has changed. -/
theorem invalidations_dropFor_lt {s t : Service} {c : Configuration} {entityType bundle : String}
    (htags : t.tags = s.tags)
    (hlisted : ¬ c.controls entityType bundle = true →
      (t.dropFor c).listed entityType bundle = s.listed entityType bundle)
    (changed : (t.dropFor c).listed entityType bundle ≠ s.listed entityType bundle) :
    s.tags.invalidations (bundleTag entityType bundle) <
      (t.dropFor c).tags.invalidations (bundleTag entityType bundle) := by
  have hc : c.controls entityType bundle = true := by
    by_contra hc
    exact changed (hlisted hc)
  rw [invalidations_dropFor, if_pos hc, htags]
  omega

theorem Effect.invalidates {s s' : Service} {o : Operation} {entityType bundle : String}
    (effect : Effect s o s') (hown : s.OwnKeys) (hkeeps : ¬ o.Unbinds s entityType bundle)
    (changed : s'.listed entityType bundle ≠ s.listed entityType bundle) :
    s.tags.invalidations (bundleTag entityType bundle) <
      s'.tags.invalidations (bundleTag entityType bundle) := by
  cases effect with
  | nothing => exact absurd rfl changed
  | remembered => exact absurd rfl changed
  | invalidated => exact absurd rfl changed
  | cleared => exact absurd rfl changed
  | saved c accepted =>
    have hkeeps := keepsBundle_of_not_unbinds hkeeps accepted
    exact invalidations_dropFor_lt rfl (listed_put hkeeps) changed
  | submitted id values c p found made =>
    have hkeeps := keepsBundle_of_holds hown found rfl rfl entityType bundle
    exact invalidations_dropFor_lt rfl (listed_put hkeeps) changed
  | deleted id c found =>
    have hkeeps := keepsBundle_of_holds hown found rfl rfl entityType bundle
    exact invalidations_dropFor_lt rfl (listed_remove hkeeps) changed

/-- What changes a bundle's list invalidates the bundle's tag, but for the unbinding saves. -/
theorem announces_iff {o : Operation} {s : Service} (hown : s.OwnKeys)
    (entityType bundle : String) :
    Announces o s entityType bundle ↔ ¬ o.Unbinds s entityType bundle := by
  constructor
  · intro h hunbinds
    obtain ⟨c, hafter, hkeeps⟩ := after_of_unbinds hunbinds
    have hraised := h (by rw [hafter]; exact listed_put_ne hown hkeeps)
    obtain ⟨-, -, -, hc⟩ := not_keepsBundle_iff.1 hkeeps
    rw [hafter, invalidations_put, if_neg hc] at hraised
    exact Nat.lt_irrefl _ hraised
  · exact fun h => (effect_after o s).invalidates hown h

theorem coherent_of_empty {s : Service} {entityType bundle : String} (h : s.cached = .empty) :
    Coherent s entityType bundle := by
  intro list hlist
  rw [h] at hlist
  cases hlist

theorem Coherent.loadFor_fst {s : Service} {entityType bundle : String}
    (coherent : Coherent s entityType bundle) (h : s.Readable) :
    ((loadFor entityType bundle).on s).1 = .ok (s.listed entityType bundle) := by
  rw [loadFor_on, loadAll_of_readable h]
  cases hcached : s.cached.get? (bundleTag entityType bundle) with
  | some list => simp only [coherent list hcached]
  | none => rfl

/-- Dropping the list of a configuration leaves the lists of the other bundles, which have not
changed. -/
theorem Coherent.dropFor {s t : Service} {c : Configuration} {entityType bundle : String}
    (h : Coherent s entityType bundle) (hcached : t.cached = s.cached)
    (hlisted : ¬ c.controls entityType bundle = true →
      (t.dropFor c).listed entityType bundle = s.listed entityType bundle) :
    Coherent (t.dropFor c) entityType bundle := by
  intro list hlist
  rw [cached_dropFor] at hlist
  by_cases hc : c.controls entityType bundle = true
  · rw [if_pos hc] at hlist
    cases hlist
  · rw [if_neg hc, hcached] at hlist
    rw [h list hlist, hlisted hc]

theorem Coherent.remember {s : Service} {entityType bundle : String}
    (h : Coherent s entityType bundle) (entityType' bundle' : String) :
    Coherent (s.remember entityType' bundle') entityType bundle := by
  intro list hlist
  show list = s.listed entityType bundle
  unfold Service.remember at hlist
  rw [KeyMap.get?_insert] at hlist
  split at hlist
  · rename_i htag
    rw [← Option.some.inj hlist, listed, listed]
    apply List.filter_congr
    intro c _
    exact Configuration.controls_congr htag
  · exact h list hlist

theorem Effect.coherent {s s' : Service} {o : Operation} {entityType bundle : String}
    (effect : Effect s o s') (h : Coherent s entityType bundle) (hown : s.OwnKeys)
    (hkeeps : ¬ o.Unbinds s entityType bundle) : Coherent s' entityType bundle := by
  cases effect with
  | nothing => exact h
  | remembered entityType' bundle' => exact h.remember entityType' bundle'
  | invalidated tag => exact fun list hlist => h list (cached_of_dropCached hlist)
  | cleared =>
    intro list hlist
    cases hlist
  | saved c accepted =>
    exact h.dropFor rfl (listed_put (keepsBundle_of_not_unbinds hkeeps accepted))
  | submitted id values c p found made =>
    exact h.dropFor rfl (listed_put (keepsBundle_of_holds hown found rfl rfl _ _))
  | deleted id c found =>
    exact h.dropFor rfl (listed_remove (keepsBundle_of_holds hown found rfl rfl _ _))

/-- A service at any time: operations went before, and whatever else happened left the cached lists
alone. -/
inductive Used : Service → Prop
  | fresh {s : Service} : s.cached = .empty → Used s
  | operation {s : Service} (o : Operation) : Used s → Used (o.after s)
  | elsewhere {s s' : Service} : Used s → s'.cached = s.cached → Used s'

/-- A cached list, current or not, holds configurations of its bundle only. -/
def CachedControl (s : Service) : Prop :=
  ∀ entityType bundle list, s.cached.get? (bundleTag entityType bundle) = some list →
    ∀ c ∈ list, c.controls entityType bundle = true

theorem CachedControl.remember {s : Service} (h : CachedControl s) (entityType bundle : String) :
    CachedControl (s.remember entityType bundle) := by
  intro entityType' bundle' list hlist c hc
  unfold Service.remember at hlist
  rw [KeyMap.get?_insert] at hlist
  split at hlist
  · rename_i htag
    rw [← Option.some.inj hlist] at hc
    rw [← Configuration.controls_congr htag]
    exact (List.mem_filter.1 hc).2
  · exact h entityType' bundle' list hlist c hc

theorem CachedControl.congr {s s' : Service} (h : CachedControl s)
    (hcached : s'.cached = s.cached) : CachedControl s' := by
  intro entityType bundle list hlist
  rw [hcached] at hlist
  exact h entityType bundle list hlist

theorem CachedControl.dropFor {s : Service} (h : CachedControl s) (c : Configuration) :
    CachedControl (s.dropFor c) := by
  intro entityType bundle list hlist
  rw [cached_dropFor] at hlist
  split at hlist
  · cases hlist
  · exact h entityType bundle list hlist

theorem CachedControl.put {s : Service} (h : CachedControl s) (c : Configuration) :
    CachedControl (s.put c) := by
  have hblobs : CachedControl { s with blobs := s.blobs.insert c.key c.toJson } := h.congr rfl
  exact hblobs.dropFor c

theorem CachedControl.remove {s : Service} (h : CachedControl s) (c : Configuration) :
    CachedControl (s.remove c) := by
  have hblobs : CachedControl { s with blobs := s.blobs.erase c.key } := h.congr rfl
  exact hblobs.dropFor c

theorem Effect.cachedControl {s s' : Service} {o : Operation} (effect : Effect s o s')
    (h : CachedControl s) : CachedControl s' := by
  cases effect with
  | nothing => exact h
  | remembered entityType bundle => exact h.remember entityType bundle
  | invalidated tag =>
    exact fun entityType bundle list hlist => h entityType bundle list (cached_of_dropCached hlist)
  | cleared =>
    intro entityType bundle list hlist
    cases hlist
  | saved c => exact h.put c
  | submitted id values c p => exact h.put _
  | deleted id c => exact h.remove c

theorem Used.cachedControl {s : Service} (used : Used s) : CachedControl s := by
  induction used with
  | fresh hempty =>
    intro entityType bundle list hlist
    rw [hempty] at hlist
    cases hlist
  | operation o _ ih => exact (effect_after o _).cachedControl ih
  | elsewhere _ hcached ih => exact ih.congr hcached

theorem controls_of_loadFor {s s' : Service} {entityType bundle : String}
    {list : List Configuration} (cached : CachedControl s)
    (h : (loadFor entityType bundle).on s = (.ok list, s')) :
    ∀ c ∈ list, c.controls entityType bundle = true := by
  rcases loadFor_eq_ok h with ⟨hcached, -⟩ | ⟨rfl, -⟩
  · exact cached entityType bundle list hcached
  · exact fun c hc => (List.mem_filter.1 hc).2

end Repository
end SynonymLookup
