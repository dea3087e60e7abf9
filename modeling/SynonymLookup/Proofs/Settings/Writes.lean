import SynonymLookup.ListField
import SynonymLookup.Proofs.Autocomplete.Key
import SynonymLookup.Proofs.Configuration.Coherence

/-! All that is written to the settings. The services share one table of blobs, each with keys of
its own: no key of another service is the key of registered autocomplete settings, and no blob that
another service writes reads as such settings. -/

namespace SynonymLookup

open Service

/-- A value that a service other than autocomplete keeps among the settings. -/
inductive Kept where
  | configuration (c : Configuration)
  | behaviorSetting (behavior entityType bundle : String) (setting : BehaviorSetting)
  | behaviorDefaults (behavior : String) (defaults : BehaviorDefaults)
  | moduleSettings (settings : ModuleSettings)
  | listField (settings : ListFieldSettings)

namespace Kept

def key : Kept → String
  | configuration c => c.key
  | behaviorSetting behavior entityType bundle _ => Behavior.settingKey behavior entityType bundle
  | behaviorDefaults behavior _ => Behavior.defaultsKey behavior
  | moduleSettings _ => ModuleSettings.key
  | listField _ => ListFieldSettings.key

def json : Kept → Json
  | configuration c => c.toJson
  | behaviorSetting _ _ _ setting => setting.toJson
  | behaviorDefaults _ defaults => defaults.toJson
  | moduleSettings settings => settings.toJson
  | listField settings => settings.toJson

end Kept

namespace AutocompleteSettings

theorem getElem?_key (x : AutocompleteSettings) : x.key.toList[8]? = some '_' := by
  obtain ⟨digits, hkey, -⟩ := x.toList_key
  simp [hkey, keyHead]

theorem count_key (x : AutocompleteSettings) : x.key.toList.count '.' = 1 := by
  obtain ⟨digits, hkey, hdigits⟩ := x.toList_key
  have hnone : digits.count '.' = 0 := by
    rw [List.count_eq_zero]
    exact fun hpoint => absurd (hdigits _ hpoint) (by decide)
  rw [hkey, List.count_append, hnone]
  decide

theorem getLast?_key (x : AutocompleteSettings) : x.key.toList.getLast? ≠ some 's' := by
  obtain ⟨digits, hkey, hdigits⟩ := x.toList_key
  rw [hkey, List.getLast?_append]
  rcases hlast : digits.getLast? with _ | c
  · decide
  · have hhex := hdigits c (List.mem_of_getLast? hlast)
    rintro heq
    cases heq
    exact absurd hhex (by decide)

theorem ofJson?_ofFields_eq_none {fields : List (String × Json)}
    (h : ∀ f ∈ fields, f.1 ≠ "target_type") : ofJson? (Json.ofFields fields) = none := by
  have hmissing : (Record.mk (KeyMap.ofList fields).entries).get? "target_type" = none := by
    rw [Record.get?_ofList, KeyMap.findEntry_eq_none_iff]
    exact fun f hf => h f (List.mem_reverse.1 hf)
  unfold ofJson?
  rw [Json.record?_ofFields]
  simp [Record.required, hmissing]

end AutocompleteSettings

namespace Kept

theorem key_ne (k : Kept) (x : AutocompleteSettings) : k.key ≠ x.key := by
  intro hkey
  have hninth := x.getElem?_key
  have hpoints := x.count_key
  have hlast := x.getLast?_key
  rw [← hkey] at hninth hpoints hlast
  cases k with
  | configuration c =>
    simp [key, Configuration.key, Configuration.keyOf, Configuration.keyHead] at hninth
  | behaviorSetting behavior entityType bundle setting =>
    simp [key, Behavior.settingKey] at hpoints
    omega
  | behaviorDefaults behavior defaults =>
    simp [key, Behavior.defaultsKey, List.getLast?_cons, List.getLast?_append] at hlast
  | moduleSettings settings => simp [key, ModuleSettings.key] at hninth
  | listField settings => simp [key, ListFieldSettings.key] at hlast

theorem ofJson?_json (k : Kept) : AutocompleteSettings.ofJson? k.json = none := by
  cases k
  all_goals
    apply AutocompleteSettings.ofJson?_ofFields_eq_none
    simp

end Kept

inductive KeptChanges (b : Blobs) : Blobs → Prop
  | none : KeptChanges b b
  | put {b' : Blobs} (k : Kept) : KeptChanges b b' → KeptChanges b (b'.insert k.key k.json)
  | erase {b' : Blobs} (k : Kept) : KeptChanges b b' → KeptChanges b (b'.erase k.key)

namespace KeptChanges

variable {b b' b'' : Blobs}

theorem trans (h : KeptChanges b b') (h' : KeptChanges b' b'') : KeptChanges b b'' := by
  induction h' with
  | none => exact h
  | put k _ ih => exact ih.put k
  | erase k _ ih => exact ih.erase k

theorem get?_key (h : KeptChanges b b') (x : AutocompleteSettings) :
    b'.get? x.key = b.get? x.key := by
  induction h with
  | none => rfl
  | put k _ ih => rw [KeyMap.get?_insert, if_neg (k.key_ne x), ih]
  | erase k _ ih => rw [KeyMap.get?_erase, if_neg (k.key_ne x), ih]

theorem get?_of_ofJson? (h : KeptChanges b b') {key : String} {j : Json} (hj : b'.get? key = some j)
    (hread : (AutocompleteSettings.ofJson? j).isSome) : b.get? key = some j := by
  induction h with
  | none => exact hj
  | put k _ ih =>
    rw [KeyMap.get?_insert] at hj
    split at hj
    · cases hj
      simp [k.ofJson?_json] at hread
    · exact ih hj
  | erase k _ ih =>
    rw [KeyMap.get?_erase] at hj
    split at hj
    · cases hj
    · exact ih hj

end KeptChanges

structure Elsewhere (s s' : Service) : Prop where
  backend : s'.backend = s.backend
  blobs : KeptChanges s.blobs s'.blobs

theorem Elsewhere.refl (s : Service) : Elsewhere s s := ⟨rfl, .none⟩

theorem Elsewhere.trans {s s' s'' : Service} (h : Elsewhere s s') (h' : Elsewhere s' s'') :
    Elsewhere s s'' := ⟨h'.backend.trans h.backend, h.blobs.trans h'.blobs⟩

/-- A step that writes no settings of autocomplete, whether it succeeds or fails. -/
def WritesElsewhere {α : Type} (step : Action α) : Prop := ∀ s, Elsewhere s (step.on s).2

namespace WritesElsewhere

variable {α β : Type}

theorem of_unchanged {step : Action α} (h : ∀ s, (step.on s).2 = s) : WritesElsewhere step := by
  intro s
  rw [h]
  exact .refl s

theorem throw (e : LookupError) : WritesElsewhere (throw e : Action α) := of_unchanged fun _ => rfl

theorem bind {x : Action α} {f : α → Action β} (hx : WritesElsewhere x)
    (hf : ∀ a, WritesElsewhere (f a)) : WritesElsewhere (x >>= f) := by
  intro s
  have hfirst := hx s
  rw [Step.on_bind]
  rcases h : x.on s with ⟨e | a, t⟩
  · rwa [h] at hfirst
  · rw [h] at hfirst
    exact hfirst.trans (hf a t)

theorem allow (a : Access) : WritesElsewhere (Service.allow a) := by
  apply of_unchanged
  intro s
  rcases Repository.allow_on a s with ⟨-, h⟩ | ⟨e, -, h⟩ <;> rw [h]

theorem setBlob (k : Kept) : WritesElsewhere (Service.setBlob k.key k.json) :=
  bind (allow _) fun _ _ => ⟨rfl, .put k .none⟩

theorem deleteBlob (k : Kept) : WritesElsewhere (Service.deleteBlob k.key) :=
  bind (allow _) fun _ _ => ⟨rfl, .erase k .none⟩

theorem invalidateTag (tag : String) : WritesElsewhere (Service.invalidateTag tag) :=
  fun _ => ⟨rfl, .none⟩

theorem require (id : String) : WritesElsewhere (Behaviors.require id) := by
  refine bind (of_unchanged fun s => rfl) fun b => ?_
  cases b with
  | none => exact throw _
  | some b => exact of_unchanged fun _ => rfl

theorem saveSetting (id entityType bundle : String) (setting : BehaviorSetting) :
    WritesElsewhere (Behaviors.saveSetting id entityType bundle setting) :=
  bind (require id) fun _ =>
    bind (setBlob (.behaviorSetting id entityType bundle setting)) fun _ => invalidateTag _

theorem deleteSetting (id entityType bundle : String) :
    WritesElsewhere (Behaviors.deleteSetting id entityType bundle) :=
  bind (deleteBlob (.behaviorSetting id entityType bundle {})) fun _ => invalidateTag _

theorem saveDefaults (id : String) (defaults : BehaviorDefaults) :
    WritesElsewhere (Behaviors.saveDefaults id defaults) :=
  bind (require id) fun _ => setBlob (.behaviorDefaults id defaults)

theorem saveAll (entityType bundle : String) (l : List (Behavior × BehaviorSetting)) :
    WritesElsewhere (Behaviors.saveAll entityType bundle l) := by
  induction l with
  | nil => exact of_unchanged fun _ => rfl
  | cons x rest ih => exact bind (saveSetting x.1.id entityType bundle x.2) fun _ => ih

theorem submit (entityType bundle : String) (values : Json) :
    WritesElsewhere (Behaviors.submit entityType bundle values) := by
  cases values with
  | object fields =>
    refine bind (of_unchanged fun _ => rfl) fun s => ?_
    dsimp only
    split
    · exact bind (throw _) fun _ => saveAll entityType bundle _
    · exact saveAll entityType bundle _
  | _ => exact throw _

end WritesElsewhere

theorem Elsewhere.dropFor {s t : Service} (h : Elsewhere s t) (c : Configuration) :
    Elsewhere s (t.dropFor c) :=
  ⟨(dropFor_backend t c).trans h.backend, by rw [dropFor_blobs]; exact h.blobs⟩

theorem Elsewhere.put (s : Service) (c : Configuration) : Elsewhere s (s.put c) := by
  have hblobs : Elsewhere s { s with blobs := s.blobs.insert c.key c.toJson } :=
    ⟨rfl, .put (.configuration c) .none⟩
  exact hblobs.dropFor c

theorem Elsewhere.remove (s : Service) (c : Configuration) : Elsewhere s (s.remove c) := by
  have hblobs : Elsewhere s { s with blobs := s.blobs.erase c.key } :=
    ⟨rfl, .erase (.configuration c) .none⟩
  exact hblobs.dropFor c

theorem Repository.Effect.elsewhere {s s' : Service} {o : Operation} (effect : Effect s o s') :
    Elsewhere s s' := by
  cases effect with
  | nothing => exact .refl s
  | remembered => exact ⟨rfl, .none⟩
  | invalidated => exact ⟨rfl, .none⟩
  | cleared => exact ⟨rfl, .none⟩
  | saved c => exact .put s c
  | submitted id values c p => exact .put s _
  | deleted id c => exact .remove s c

inductive Write where
  | register (settings : AutocompleteSettings)
  | repository (o : Repository.Operation)
  | registerBehavior (b : Behavior)
  | saveSetting (behavior entityType bundle : String) (setting : BehaviorSetting)
  | deleteSetting (behavior entityType bundle : String)
  | submitSettings (entityType bundle : String) (values : Json)
  | saveDefaults (behavior : String) (defaults : BehaviorDefaults)
  | saveWording (settings : ModuleSettings)
  | saveListField (settings : ListFieldSettings)

namespace Write

def after : Write → Service → Service
  | register settings, s => ((Autocomplete.register settings).on s).2
  | repository o, s => o.after s
  | registerBehavior b, s => ((Behaviors.register b).on s).2
  | saveSetting behavior entityType bundle setting, s =>
    ((Behaviors.saveSetting behavior entityType bundle setting).on s).2
  | deleteSetting behavior entityType bundle, s =>
    ((Behaviors.deleteSetting behavior entityType bundle).on s).2
  | submitSettings entityType bundle values, s =>
    ((Behaviors.submit entityType bundle values).on s).2
  | saveDefaults behavior defaults, s => ((Behaviors.saveDefaults behavior defaults).on s).2
  | saveWording settings, s => ((Wording.saveSettings settings).on s).2
  | saveListField settings, s => ((ListField.saveSettings settings).on s).2

def settings? : Write → Option AutocompleteSettings
  | register settings => some settings
  | _ => none

/-- The settings that a write registers, with the key answered for them. -/
def registration (w : Write) (s : Service) : Option (AutocompleteSettings × String) :=
  w.settings?.bind fun settings =>
    ((Autocomplete.register settings).on s).1.toOption.map fun key => (settings, key)

end Write

theorem Autocomplete.register_on (settings : AutocompleteSettings) (s : Service) :
    (s.Up .configSet ∧ (register settings).on s = (.ok settings.key,
      { s with blobs := s.blobs.insert settings.key settings.toJson })) ∨
    ∃ e, ¬ s.Up .configSet ∧ (register settings).on s = (.error e, s) := by
  rcases Repository.setBlob_on settings.key settings.toJson s with ⟨hup, hset⟩ | ⟨e, hdown, hset⟩
  · exact .inl ⟨hup, Step.on_bind_ok hset⟩
  · exact .inr ⟨e, hdown, Step.on_bind_error hset⟩

namespace Write

/-- A write registers settings under their key, or leaves all settings of autocomplete alone. -/
theorem effect (w : Write) (s : Service) :
    (∃ x : AutocompleteSettings, w.registration s = some (x, x.key) ∧
      w.after s = { s with blobs := s.blobs.insert x.key x.toJson }) ∨
    (w.registration s = none ∧ Elsewhere s (w.after s)) := by
  cases w with
  | register x =>
    simp only [registration, settings?, after, Option.bind_some]
    rcases Autocomplete.register_on x s with ⟨-, h⟩ | ⟨e, -, h⟩ <;> rw [h]
    · exact .inl ⟨x, rfl, rfl⟩
    · exact .inr ⟨rfl, .refl s⟩
  | repository o => exact .inr ⟨rfl, (Repository.effect_after o s).elsewhere⟩
  | registerBehavior b => exact .inr ⟨rfl, rfl, .none⟩
  | saveSetting behavior entityType bundle setting =>
    exact .inr ⟨rfl, WritesElsewhere.saveSetting behavior entityType bundle setting s⟩
  | deleteSetting behavior entityType bundle =>
    exact .inr ⟨rfl, WritesElsewhere.deleteSetting behavior entityType bundle s⟩
  | submitSettings entityType bundle values =>
    exact .inr ⟨rfl, WritesElsewhere.submit entityType bundle values s⟩
  | saveDefaults behavior defaults =>
    exact .inr ⟨rfl, WritesElsewhere.saveDefaults behavior defaults s⟩
  | saveWording settings =>
    exact .inr ⟨rfl, WritesElsewhere.setBlob (.moduleSettings settings) s⟩
  | saveListField settings => exact .inr ⟨rfl, WritesElsewhere.setBlob (.listField settings) s⟩

theorem registration_of_up (w : Write) {s : Service} (up : s.Up .configSet) :
    (w.registration s).map (·.1) = w.settings? := by
  cases w with
  | register settings =>
    rcases Autocomplete.register_on settings s with ⟨-, h⟩ | ⟨e, hdown, -⟩
    · simp [registration, settings?, h, Except.toOption]
    · exact absurd up hdown
  | _ => rfl

end Write

namespace Service

open AutocompleteSettings

def runAll : List Write → Service → Service
  | [], s => s
  | w :: rest, s => runAll rest (w.after s)

def registrations : List Write → Service → List (AutocompleteSettings × String)
  | [], _ => []
  | w :: rest, s => (w.registration s).toList ++ registrations rest (w.after s)

def registered (ws : List Write) (s : Service) : List AutocompleteSettings :=
  (registrations ws s).map (·.1)

theorem registered_cons (w : Write) (rest : List Write) (s : Service) :
    registered (w :: rest) s =
      ((w.registration s).map (·.1)).toList ++ registered rest (w.after s) := by
  unfold registered
  rw [registrations, List.map_append]
  cases w.registration s <;> rfl

theorem backend_after (w : Write) (s : Service) : (w.after s).backend = s.backend := by
  rcases w.effect s with ⟨x, -, h⟩ | ⟨-, h⟩
  · rw [h]
  · exact h.backend

theorem backend_runAll (ws : List Write) (s : Service) : (runAll ws s).backend = s.backend := by
  induction ws generalizing s with
  | nil => rfl
  | cons w rest ih => exact (ih _).trans (backend_after w s)

theorem up_runAll {ws : List Write} {s : Service} {a : Access} : (runAll ws s).Up a ↔ s.Up a := by
  rw [Up, Up, backend_runAll]

theorem registrations_append (ws later : List Write) (s : Service) :
    registrations (ws ++ later) s = registrations ws s ++ registrations later (runAll ws s) := by
  induction ws generalizing s with
  | nil => rfl
  | cons w rest ih => simp [registrations, runAll, ih]

theorem registered_of_up {ws : List Write} {s : Service} (up : s.Up .configSet) :
    registered ws s = ws.filterMap Write.settings? := by
  induction ws generalizing s with
  | nil => rfl
  | cons w rest ih =>
    have hrest : registered rest (w.after s) = rest.filterMap Write.settings? := by
      apply ih
      rwa [Up, backend_after]
    rw [registered_cons, hrest, w.registration_of_up up, List.filterMap_cons]
    cases w.settings? <;> rfl

theorem key_of_mem_registrations {ws : List Write} {s : Service} {x : AutocompleteSettings}
    {key : String} (h : (x, key) ∈ registrations ws s) : key = x.key := by
  induction ws generalizing s with
  | nil => cases h
  | cons w rest ih =>
    rw [registrations, List.mem_append, Option.mem_toList] at h
    rcases h with h | h
    · rcases w.effect s with ⟨y, hy, -⟩ | ⟨hnone, -⟩
      · rw [hy] at h
        cases h
        rfl
      · rw [hnone] at h
        cases h
    · exact ih h

/-- Under the key of settings stands what was registered there, and else what stood there before, as
long as no other settings of that key are registered. -/
theorem get?_runAll {ws : List Write} {s : Service} {x : AutocompleteSettings}
    (alone : ∀ y ∈ registered ws s, y.key = x.key → y = x) :
    (runAll ws s).blobs.get? x.key =
      if x ∈ registered ws s then some x.toJson else s.blobs.get? x.key := by
  induction ws generalizing s with
  | nil => simp [runAll, registered, registrations]
  | cons w rest ih =>
    rw [registered_cons] at alone
    have hrest := ih fun y hy => alone y (List.mem_append_right _ hy)
    rw [runAll, hrest, registered_cons]
    by_cases hlater : x ∈ registered rest (w.after s)
    · rw [if_pos hlater, if_pos (List.mem_append_right _ hlater)]
    · rw [if_neg hlater]
      rcases w.effect s with ⟨y, hy, hafter⟩ | ⟨hnone, h⟩
      · have hkey : y.key = x.key → y = x := alone y (by simp [hy])
        by_cases hxy : y = x
        · have hput : (w.after s).blobs.get? x.key = some x.toJson := by simp [hafter, hxy]
          rw [hput, if_pos (by simp [hy, hxy])]
        · have hne : y.key ≠ x.key := fun h => hxy (hkey h)
          have hkept : (w.after s).blobs.get? x.key = s.blobs.get? x.key := by simp [hafter, hne]
          rw [hkept, if_neg (by simp [hy, Ne.symm hxy, hlater])]
      · rw [h.blobs.get?_key, if_neg (by simp [hnone, hlater])]

theorem of_get?_runAll {ws : List Write} {s : Service} {key : String} {j : Json}
    (hj : (runAll ws s).blobs.get? key = some j)
    (hread : (AutocompleteSettings.ofJson? j).isSome) :
    s.blobs.get? key = some j ∨ key ∈ (registrations ws s).map (·.2) := by
  induction ws generalizing s with
  | nil => exact .inl hj
  | cons w rest ih =>
    rw [registrations, List.map_append, List.mem_append]
    rcases ih hj with hbefore | hlater
    · rcases w.effect s with ⟨y, hy, hafter⟩ | ⟨-, h⟩
      · rw [hafter, KeyMap.get?_insert] at hbefore
        split at hbefore
        · rename_i hkey
          exact .inr (.inl (by simp [hy, hkey]))
        · exact .inl hbefore
      · exact .inl (h.blobs.get?_of_ofJson? hbefore hread)
    · exact .inr (.inr hlater)

end Service

end SynonymLookup
