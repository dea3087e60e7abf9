import SynonymLookup.Proofs.Configuration.ReadBack

/-! The repository as a keyed collection: what is saved is loaded as it was, what is deleted is
gone, every other entry of the settings stays, and a step that fails leaves everything as it was. -/

namespace SynonymLookup
namespace Configuration

/-- Small letters, digits, underscores and points, one of them at least. -/
def ValidId (id : String) : Prop :=
  id ≠ "" ∧ ∀ c ∈ id.toList, ('a' ≤ c ∧ c ≤ 'z') ∨ ('0' ≤ c ∧ c ≤ '9') ∨ c = '_' ∨ c = '.'

theorem validId_iff {id : String} : validId id = true ↔ ValidId id := by
  have hlower (c : Char) : c.isLower = true ↔ 'a' ≤ c ∧ c ≤ 'z' :=
    Bool.and_eq_true_iff.trans (and_congr decide_eq_true_iff decide_eq_true_iff)
  have hdigit (c : Char) : c.isDigit = true ↔ '0' ≤ c ∧ c ≤ '9' :=
    Bool.and_eq_true_iff.trans (and_congr decide_eq_true_iff decide_eq_true_iff)
  simp [validId, ValidId, hlower, hdigit, or_assoc]

/-- A configuration can be saved if its id is valid and its provider derivable. -/
def Savable (c : Configuration) (r : Registry) (s : Schema) : Prop :=
  ValidId c.id ∧ (r.definition? s c.plugin).isSome

theorem errors_eq_nil_iff {c : Configuration} {r : Registry} {s : Schema} :
    c.errors r s = [] ↔ c.Savable r s := by
  unfold Savable errors
  rw [← validId_iff]
  by_cases hid : validId c.id = true <;>
    by_cases hplugin : (r.definition? s c.plugin).isSome = true <;>
    simp [hid, hplugin]

theorem provider_isOk_iff {c : Configuration} {r : Registry} {s : Schema} :
    (∃ p, c.provider r s = .ok p) ↔ (r.definition? s c.plugin).isSome := by
  unfold provider Registry.create Registry.definition?
  cases r.resolve? s c.plugin with
  | none => simp [throw, throwThe, MonadExceptOf.throw]
  | some found => simp [pure, Except.pure]

def withForm (c : Configuration) (values : Json) : Configuration :=
  { c with settings := c.settings.submit values }

end Configuration

namespace Service

/-- All accesses to the settings are in service. What should be configurations are,
each under its own id. -/
structure Serving (s : Service) : Prop extends Readable s where
  set : s.Up .configSet
  delete : s.Up .configDelete
  own : s.OwnKeys

def configuration? (s : Service) (id : String) : Option Configuration :=
  (s.blobs.get? (Configuration.keyOf id)).bind Configuration.ofJson?

def SameBut (key : String) (s t : Service) : Prop :=
  ∀ other, other ≠ key → t.blobs.get? other = s.blobs.get? other

variable {s : Service} {c : Configuration} {id : String}

theorem holds_iff : s.holds id c ↔ s.configuration? id = some c := Option.bind_eq_some_iff.symm

theorem OwnKeys.id_of_configuration? (own : s.OwnKeys) (h : s.configuration? id = some c) :
    c.id = id :=
  own.id_eq (holds_iff.2 h)

theorem configuration?_put (plain : c.settings.Plain) (id : String) :
    (s.put c).configuration? id = if c.id = id then some c else s.configuration? id := by
  unfold configuration?
  rw [put_blobs, KeyMap.get?_insert]
  by_cases hid : c.id = id
  · subst hid
    simp [Configuration.key, Configuration.ofJson?_toJson_of_plain plain]
  · have hkey : c.key ≠ Configuration.keyOf id := fun h => hid (keyOf_inj h)
    simp [hid, hkey]

theorem configuration?_remove (id : String) :
    (s.remove c).configuration? id = if c.id = id then none else s.configuration? id := by
  unfold configuration?
  rw [remove_blobs, KeyMap.get?_erase]
  by_cases hid : c.id = id
  · subst hid
    simp [Configuration.key]
  · have hkey : c.key ≠ Configuration.keyOf id := fun h => hid (keyOf_inj h)
    simp [hid, hkey]

theorem sameBut_put (s : Service) (c : Configuration) : SameBut c.key s (s.put c) := by
  intro other hother
  simp [Ne.symm hother]

theorem sameBut_remove (s : Service) (c : Configuration) : SameBut c.key s (s.remove c) := by
  intro other hother
  simp [Ne.symm hother]

theorem mem_stored_iff_configuration? (own : s.OwnKeys) :
    c ∈ s.stored ↔ s.configuration? c.id = some c := by
  rw [mem_stored_iff own, holds_iff]

theorem stored_put (own : s.OwnKeys) (plain : c.settings.Plain) :
    (s.put c).stored = s.stored.filter (fun other => other.id < c.id) ++
      c :: s.stored.filter (fun other => c.id < other.id) := by
  -- both lists are in the order of the ids, so it is enough that they have the same elements
  refine eq_of_pairwise_lt (own.put c).stored_sorted ?_ fun other => ?_
  · have hbefore : ∀ a ∈ s.stored.filter (fun other => other.id < c.id), a.id < c.id :=
      fun a ha => by simpa using (List.mem_filter.1 ha).2
    have hafter : ∀ a ∈ s.stored.filter (fun other => c.id < other.id), c.id < a.id :=
      fun a ha => by simpa using (List.mem_filter.1 ha).2
    refine List.pairwise_append.2 ⟨own.stored_sorted.filter _, ?_, fun a ha b hb => ?_⟩
    · exact List.pairwise_cons.2 ⟨hafter, own.stored_sorted.filter _⟩
    · rcases List.mem_cons.1 hb with rfl | hb
      · exact hbefore a ha
      · exact String.lt_trans (hbefore a ha) (hafter b hb)
  · simp only [List.mem_append, List.mem_cons, List.mem_filter, decide_eq_true_eq,
      mem_stored_iff_configuration? own, mem_stored_iff_configuration? (own.put c),
      configuration?_put plain]
    by_cases hid : c.id = other.id
    · simp [hid, eq_comm]
    · have hapart : other.id < c.id ∨ c.id < other.id := by
        by_cases hlt : other.id < c.id
        · exact .inl hlt
        · exact .inr (KeyMap.lt_of_not_lt_of_ne hlt (Ne.symm hid))
      have hne : other ≠ c := fun h => hid (h ▸ rfl)
      rw [if_neg hid]
      tauto

end Service

namespace Repository

open Service

variable {s t : Service} {c : Configuration} {id : String}

theorem allow_of_up {a : Access} (h : s.Up a) : (allow a).on s = (.ok (), s) := by
  rcases allow_on a s with ⟨-, hallow⟩ | ⟨-, hdown, -⟩
  · exact hallow
  · exact absurd h hdown

theorem load_eq_some_iff :
    (load id).on s = (.ok (some c), t) ↔ s.Up .configGet ∧
      s.configuration? id = some c ∧ t = s := by
  unfold load getStored Service.configuration?
  rcases getBlob_on (Configuration.keyOf id) s with ⟨hup, hblob⟩ | ⟨e, hdown, hblob⟩
  · rw [Step.on_bind_ok hblob]
    cases s.blobs.get? (Configuration.keyOf id) with
    | none => simp
    | some j =>
      have hread : (JsonForm.ofJson? j : Option Configuration) = Configuration.ofJson? j := rfl
      cases hj : Configuration.ofJson? j <;> simp [hread, hj, hup, eq_comm]
  · rw [Step.on_bind_error hblob]
    simp [hdown]

theorem load_eq_none_iff :
    (load id).on s = (.ok none, t) ↔
      s.Up .configGet ∧ s.blobs.get? (Configuration.keyOf id) = none ∧ t = s := by
  unfold load getStored
  rcases getBlob_on (Configuration.keyOf id) s with ⟨hup, hblob⟩ | ⟨e, hdown, hblob⟩
  · rw [Step.on_bind_ok hblob]
    cases s.blobs.get? (Configuration.keyOf id) with
    | none => simp [hup, eq_comm]
    | some j => cases hj : (JsonForm.ofJson? j : Option Configuration) <;> simp [hj]
  · rw [Step.on_bind_error hblob]
    simp [hdown]

theorem load_of_readable (readable : s.Readable) (id : String) :
    (load id).on s = (.ok (s.configuration? id), s) := by
  cases hj : s.blobs.get? (Configuration.keyOf id) with
  | none =>
    have hnone : s.configuration? id = none := by simp [Service.configuration?, hj]
    rw [hnone]
    exact load_eq_none_iff.2 ⟨readable.get, hj, rfl⟩
  | some j =>
    have hread := wellFormed_iff.1 readable.wellFormed _ j
      (by rw [get?_configurationBlobs_keyOf, hj])
    obtain ⟨c, hc⟩ := Option.isSome_iff_exists.1 hread
    have hsome : s.configuration? id = some c := by simp [Service.configuration?, hj, hc]
    rw [hsome]
    exact load_eq_some_iff.2 ⟨readable.get, hsome, rfl⟩

theorem save_of_up (up : s.Up .configSet) (c : Configuration) :
    (save c).on s = if c.errors s.registry s.schema = [] then (.ok (), s.put c)
      else (.error (.validation (c.errors s.registry s.schema)), s) := by
  unfold save
  rw [Step.on_bind_ok (Step.on_get s)]
  cases herrors : c.errors s.registry s.schema with
  | nil =>
    have hset : (setStored c.key c).on s =
        (.ok (), { s with blobs := s.blobs.insert c.key c.toJson }) :=
      Step.on_bind_ok (allow_of_up up)
    exact (Step.on_bind_ok hset).trans (invalidateFor_on c _)
  | cons e rest => rfl

theorem save_eq_ok_iff (up : s.Up .configSet) :
    (save c).on s = (.ok (), t) ↔ c.Savable s.registry s.schema ∧ t = s.put c := by
  rw [save_of_up up, ← Configuration.errors_eq_nil_iff]
  by_cases herrors : c.errors s.registry s.schema = []
  · simp [herrors, eq_comm (a := t)]
  · simp [herrors]

theorem delete_of_readable (readable : s.Readable) (up : s.Up .configDelete) (id : String) :
    (delete id).on s = match s.configuration? id with
      | none => (.ok false, s)
      | some c => (.ok true, s.remove c) := by
  unfold delete
  rw [Step.on_bind_ok (load_of_readable readable id)]
  cases s.configuration? id with
  | none => rfl
  | some c =>
    have herase : (deleteBlob c.key).on s = (.ok (), { s with blobs := s.blobs.erase c.key }) :=
      Step.on_bind_ok (allow_of_up up)
    exact (Step.on_bind_ok herase).trans (Step.on_bind_ok (invalidateFor_on c _))

theorem require_of_readable (readable : s.Readable) (id : String) :
    (require id).on s = match s.configuration? id with
      | none => (.error (.configurationNotFound id), s)
      | some c => (.ok c, s) := by
  unfold require
  rw [Step.on_bind_ok (load_of_readable readable id)]
  cases s.configuration? id <;> rfl

theorem save_return_eq_ok_iff (up : s.Up .configSet) {made : Configuration} :
    (do save made; return made : Action Configuration).on s = (.ok c, t) ↔
      made.Savable s.registry s.schema ∧ c = made ∧ t = s.put c := by
  rw [Step.on_bind, save_of_up up, ← Configuration.errors_eq_nil_iff]
  by_cases herrors : made.errors s.registry s.schema = []
  · simp only [herrors, if_true, Step.on_pure, Prod.mk.injEq, Except.ok.injEq, true_and]
    constructor
    · rintro ⟨rfl, rfl⟩
      exact ⟨rfl, rfl⟩
    · rintro ⟨rfl, rfl⟩
      exact ⟨rfl, rfl⟩
  · simp [herrors]

theorem submit_eq_ok_iff (serving : s.Serving) {values : Json} :
    (submit id values).on s = (.ok c, t) ↔
      ProviderConfiguration.formErrors values = [] ∧ ∃ before p, s.configuration? id = some before ∧
        before.provider s.registry s.schema = .ok p ∧ before.Savable s.registry s.schema ∧
        c = { before with settings := p.configuration.submit values } ∧ t = s.put c := by
  unfold submit
  rw [Step.on_bind, require_of_readable serving.toReadable]
  cases s.configuration? id with
  | none => simp
  | some before =>
    dsimp only
    rw [Step.on_bind, provider_on]
    cases hp : before.provider s.registry s.schema with
    | error e => simp [hp]
    | ok p =>
      cases ProviderConfiguration.formErrors values with
      | cons e rest => simp
      | nil =>
        have hsave {made : Configuration} :
            (do save made; return made : Action Configuration).on s =
            (.ok c, t) ↔ made.Savable s.registry s.schema ∧ c = made ∧ t = s.put c :=
          save_return_eq_ok_iff serving.set
        refine hsave.trans ?_
        simp [Configuration.Savable, hp]

/-- If a step fails then it leaves the settings, the cached lists and the tags as they were. -/
def LeavesOnError {α : Type} (step : Action α) (s : Service) : Prop :=
  ∀ e t, step.on s = (.error e, t) → t = s

theorem leavesOnError_save (c : Configuration) (s : Service) : LeavesOnError (save c) s := by
  intro e t h
  rcases save_on c s with hs | ⟨_, hs⟩ <;> rw [hs] at h <;> cases h
  rfl

theorem leavesOnError_delete (id : String) (s : Service) : LeavesOnError (delete id) s := by
  intro e t h
  rcases delete_on id s with ⟨_, hs⟩ | ⟨_, -, hs⟩ <;> rw [hs] at h <;> cases h
  rfl

theorem leavesOnError_submit (id : String) (values : Json) (s : Service) :
    LeavesOnError (submit id values) s := by
  intro e t h
  rcases submit_on id values s with ⟨_, hs⟩ | ⟨_, _, -, -, hs⟩ <;> rw [hs] at h <;> cases h
  rfl

/-- What is saved, deleted and submitted under an id shows in what is loaded
afterwards, and in nothing else. -/
structure Laws (s : Service) : Prop where
  saves : ∀ c, ((save c).on s).1 = .ok () ↔ c.Savable s.registry s.schema
  saved : ∀ c t, c.settings.Plain → (save c).on s = (.ok (), t) →
    (load c.id).on t = (.ok (some c), t) ∧ SameBut c.key s t ∧
    ∃ former, loadAll.on s = (.ok former, s) ∧ (former.Pairwise fun a b => a.id < b.id) ∧
      loadAll.on t = (.ok (former.filter (fun other => other.id < c.id) ++
        c :: former.filter (fun other => c.id < other.id)), t)
  deletes : ∀ id, ∃ found, (load id).on s = (.ok found, s) ∧ ((delete id).on s).1 = .ok found.isSome
  deleted : ∀ id t, (delete id).on s = (.ok true, t) →
    (load id).on t = (.ok none, t) ∧ SameBut (Configuration.keyOf id) s t
  undeleted : ∀ id t, (delete id).on s = (.ok false, t) → t = s
  submits : ∀ id values, (∃ c, ((submit id values).on s).1 = .ok c) ↔
    ProviderConfiguration.formErrors values = [] ∧
      ∃ before, (load id).on s = (.ok (some before), s) ∧ before.Savable s.registry s.schema
  submitted : ∀ id values c t, (submit id values).on s = (.ok c, t) →
    t.blobs.get? (Configuration.keyOf id) = some c.toJson ∧ SameBut (Configuration.keyOf id) s t ∧
    (s.registry.KeepsSettings → values.IsNormal → (load id).on t = (.ok (some c), t) ∧
      ∃ before, (load id).on s = (.ok (some before), s) ∧ c = before.withForm values)

theorem readable_put (readable : s.Readable) (plain : c.settings.Plain) : (s.put c).Readable := by
  have hread : (Configuration.ofJson? c.toJson).isSome := by
    rw [Configuration.ofJson?_toJson_of_plain plain]
    rfl
  exact ⟨up_put.2 readable.list, up_put.2 readable.get, readable.wellFormed.put hread⟩

theorem readable_remove (readable : s.Readable) (c : Configuration) : (s.remove c).Readable :=
  ⟨up_remove.2 readable.list, up_remove.2 readable.get, readable.wellFormed.remove c⟩

theorem load_put (readable : s.Readable) (plain : c.settings.Plain) :
    (load c.id).on (s.put c) = (.ok (some c), s.put c) := by
  rw [load_of_readable (readable_put readable plain), configuration?_put plain, if_pos rfl]

theorem load_remove (readable : s.Readable) (c : Configuration) :
    (load c.id).on (s.remove c) = (.ok none, s.remove c) := by
  rw [load_of_readable (readable_remove readable c), configuration?_remove, if_pos rfl]

theorem plain_of_configuration? (h : s.configuration? id = some c) : c.settings.Plain := by
  obtain ⟨j, -, hread⟩ := Option.bind_eq_some_iff.1 h
  exact Configuration.plain_of_ofJson? hread

theorem laws_of_serving (serving : s.Serving) : Laws s where
  saves c := by
    rw [save_of_up serving.set, ← Configuration.errors_eq_nil_iff]
    by_cases herrors : c.errors s.registry s.schema = [] <;> simp [herrors]
  saved c t plain hsave := by
    obtain ⟨-, rfl⟩ := (save_eq_ok_iff serving.set).1 hsave
    refine ⟨load_put serving.toReadable plain, sameBut_put s c, s.stored,
      loadAll_of_readable serving.toReadable, serving.own.stored_sorted, ?_⟩
    rw [loadAll_of_readable (readable_put serving.toReadable plain), stored_put serving.own plain]
  deletes id := by
    refine ⟨_, load_of_readable serving.toReadable id, ?_⟩
    rw [delete_of_readable serving.toReadable serving.delete]
    cases s.configuration? id <;> rfl
  deleted id t hdelete := by
    rw [delete_of_readable serving.toReadable serving.delete] at hdelete
    cases hfound : s.configuration? id with
    | none =>
      rw [hfound] at hdelete
      cases hdelete
    | some c =>
      rw [hfound] at hdelete
      cases hdelete
      obtain rfl := serving.own.id_of_configuration? hfound
      exact ⟨load_remove serving.toReadable c, sameBut_remove s c⟩
  undeleted id t hdelete := by
    rw [delete_of_readable serving.toReadable serving.delete] at hdelete
    cases hfound : s.configuration? id with
    | none =>
      rw [hfound] at hdelete
      cases hdelete
      rfl
    | some c =>
      rw [hfound] at hdelete
      cases hdelete
  submits id values := by
    have hload {before : Configuration} : (load id).on s = (.ok (some before), s) ↔
        s.configuration? id = some before := by simp [load_of_readable serving.toReadable]
    constructor
    · rintro ⟨c, hc⟩
      obtain ⟨herrors, before, p, hbefore, -, hsavable, -⟩ :=
        (submit_eq_ok_iff serving).1 (Step.on_eq_of_fst hc)
      exact ⟨herrors, before, hload.2 hbefore, hsavable⟩
    · rintro ⟨herrors, before, hbefore, hsavable⟩
      obtain ⟨p, hp⟩ := Configuration.provider_isOk_iff.2 hsavable.2
      exact ⟨_, congrArg Prod.fst ((submit_eq_ok_iff serving).2
        ⟨herrors, before, p, hload.1 hbefore, hp, hsavable, rfl, rfl⟩)⟩
  submitted id values c t hsubmit := by
    obtain ⟨-, before, p, hbefore, hp, -, hc, rfl⟩ := (submit_eq_ok_iff serving).1 hsubmit
    have hown := serving.own.id_of_configuration? hbefore
    obtain rfl : c.id = id := by rw [hc, ← hown]
    refine ⟨?_, sameBut_put s c, fun keeps hvalues => ?_⟩
    · rw [put_blobs, KeyMap.get?_insert]
      exact if_pos rfl
    · have hform : c = before.withForm values := by
        rw [hc, keeps.create hp]
        rfl
      have plain : c.settings.Plain := hform ▸ (plain_of_configuration? hbefore).submit hvalues
      refine ⟨load_put serving.toReadable plain, before, ?_, hform⟩
      rw [load_of_readable serving.toReadable, hbefore]

/-- The repository keeps configurations by id. Where the settings are in service and hold
configurations under their own ids, what is saved, deleted and submitted obeys the laws of a
collection; whatever the state, a step that fails leaves it. -/
theorem configurations_kept_by_id (s : Service) :
    (∀ c, LeavesOnError (save c) s) ∧ (∀ id, LeavesOnError (delete id) s) ∧
    (∀ id values, LeavesOnError (submit id values) s) ∧ (s.Serving → Laws s) :=
  ⟨fun c => leavesOnError_save c s, fun id => leavesOnError_delete id s,
    fun id values => leavesOnError_submit id values s, laws_of_serving⟩

def aliasAt (id : String) : Configuration := { aliasConfiguration "article" with id }

def shelved : Service := ((aliased "article").put (aliasAt "a.first")).put (aliasAt "z_last")

def between : Configuration :=
  { aliasAt "alias" with
    settings := { wording := "@synonym", extra := KeyMap.empty.insert "weight" (.ofNat 3) } }

def reworded : Json := .object [("wording", .string "@synonym")]

theorem serving_shelved : shelved.Serving := by
  have own : (aliased "article").OwnKeys := fun key j c hj => nomatch hj
  have wellFormed : (aliased "article").WellFormed := fun j hj => nomatch hj
  exact ⟨⟨rfl, rfl, (wellFormed.put rfl).put rfl⟩, rfl, rfl, (own.put _).put _⟩

theorem plain_between : between.settings.Plain := by
  refine ⟨rfl, fun value hvalue => ?_⟩
  obtain rfl : value = .ofNat 3 := List.mem_singleton.1 hvalue
  rfl

theorem configurations_kept_by_id_shelved :
    shelved.Serving ∧ between.settings.Plain ∧ reworded.IsNormal ∧
    (∃ t, (save between).on shelved = (.ok (), t) ∧ (load "alias").on t = (.ok (some between), t) ∧
      loadAll.on t = (.ok [aliasAt "a.first", between, aliasAt "z_last"], t)) ∧
    (∃ t, (delete "z_last").on shelved = (.ok true, t) ∧ (load "z_last").on t = (.ok none, t)) ∧
    ∃ c t, (submit "z_last" reworded).on shelved = (.ok c, t) ∧ c.settings.wording = "@synonym" ∧
      (load "z_last").on t = (.ok (some c), t) := by
  have laws : Laws shelved := (configurations_kept_by_id shelved).2.2.2 serving_shelved
  have normal : reworded.IsNormal := rfl
  have hlast : (load "z_last").on shelved = (.ok (some (aliasAt "z_last")), shelved) :=
    load_eq_some_iff.2 ⟨rfl, rfl, rfl⟩
  have hsave : (save between).on shelved = (.ok (), _) :=
    Step.on_eq_of_fst ((laws.saves between).2 (Configuration.errors_eq_nil_iff.1 rfl))
  have hgone : ((delete "z_last").on shelved).1 = .ok true := by
    obtain ⟨found, hfound, hdelete⟩ := laws.deletes "z_last"
    rw [hlast] at hfound
    cases hfound
    exact hdelete
  have hdelete := Step.on_eq_of_fst hgone
  obtain ⟨c, hc⟩ := (laws.submits "z_last" reworded).2
    ⟨rfl, _, hlast, Configuration.errors_eq_nil_iff.1 rfl⟩
  have hsubmit := Step.on_eq_of_fst hc
  obtain ⟨hload, -, former, hformer, -, hall⟩ := laws.saved between _ plain_between hsave
  obtain ⟨-, -, hkept⟩ := laws.submitted "z_last" reworded c _ hsubmit
  obtain ⟨hstored, before, hbefore, rfl⟩ := hkept Registry.keepsSettings_builtin normal
  have hformer' : (loadAll.on shelved).1 = .ok [aliasAt "a.first", aliasAt "z_last"] := rfl
  rw [hformer] at hformer'
  cases hformer'
  exact ⟨serving_shelved, plain_between, normal, ⟨_, hsave, hload, hall⟩,
    ⟨_, hdelete, (laws.deleted "z_last" _ hdelete).1⟩, _, _, hsubmit, rfl, hstored⟩

end Repository
end SynonymLookup
