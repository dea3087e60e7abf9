import SynonymLookup.Proofs.Behavior

/-! The form of all behaviors, submitted. The values of every behavior are looked at
before the first setting is stored, so a form is accepted with all its values or
leaves everything as it was. -/

namespace SynonymLookup

theorem BehaviorSetting.ofJson?_toJson (x : BehaviorSetting) : ofJson? x.toJson = some x := by
  unfold ofJson? toJson
  rw [Json.record?_ofFields]
  generalize hr : Record.mk (KeyMap.ofList [("status", Json.bool x.status),
    ("wording", .string x.wording)]).entries = r
  have hstatus : r.withDefault "status" Json.flag? false = some x.status := by
    simp [← hr, Record.withDefault, Record.get?_ofList, KeyMap.findEntry, Json.flag?]
  have hwording : r.withDefault "wording" Json.string? "" = some x.wording := by
    simp [← hr, Record.withDefault, Record.get?_ofList, KeyMap.findEntry, Json.string?]
  simp [hstatus, hwording]

theorem Behavior.settingKey_inj {id id' entityType bundle : String} :
    settingKey id entityType bundle = settingKey id' entityType bundle ↔ id = id' := by
  simp [settingKey, String.append_assoc]

namespace Behaviors

open Service Repository

variable {s : Service} {entityType bundle : String} {behaviors : List Behavior} {x : Behavior}
  {fields : List (String × Json)} {settingFor : String → BehaviorSetting}

/-- What a submitted value says of a switch: nothing is off, and a number is on
unless it is zero. -/
inductive Switches : Option Json → Bool → Prop
  | absent : Switches none false
  | flag (on : Bool) : Switches (some (.bool on)) on
  | number (n : Nat) : Switches (some (.ofNat n)) (n != 0)

/-- What a submitted value says of a wording: nothing and null are the empty one. -/
inductive Words : Option Json → String → Prop
  | absent : Words none ""
  | null : Words (some .null) ""
  | text (wording : String) : Words (some (.string wording)) wording

/-- The values submit a setting for a behavior. -/
structure Submits (values : Json) (x : Behavior) (setting : BehaviorSetting) : Prop where
  status : Switches (values.field? (statusKey x)) setting.status
  wording : Words (values.field? (wordingKey x)) setting.wording

section Submitted

theorem switches_some_iff {j : Json} {on : Bool} : Switches (some j) on ↔ j.flag? = some on := by
  constructor
  · rintro (_ | _ | n)
    · rfl
    · simp [Json.ofNat, Json.flag?, Number.natural?]
  · intro h
    unfold Json.flag? at h
    split at h
    · cases h
      exact .flag _
    · rename_i n
      obtain ⟨k, hk, rfl⟩ := Option.map_eq_some_iff.1 h
      cases n with
      | float x => cases hk
      | integer i =>
        obtain ⟨hpos, rfl⟩ : 0 ≤ i ∧ i.toNat = k := by simpa [Number.natural?] using hk
        obtain ⟨n, rfl⟩ := Int.eq_ofNat_of_zero_le hpos
        exact .number n
    · cases h

theorem submitted_of_switches {on : Bool}
    (h : Switches (KeyMap.findEntry (statusKey x) fields) on) :
    submitted x fields = match KeyMap.findEntry (wordingKey x) fields with
      | none | some .null => .ok ⟨on, ""⟩
      | some (.string wording) => .ok ⟨on, wording⟩
      | some _ => .error ⟨wordingKey x, "must be a string"⟩ := by
  unfold submitted
  cases hfound : KeyMap.findEntry (statusKey x) fields with
  | none =>
    rw [hfound] at h
    cases h
    rfl
  | some j =>
    rw [hfound, switches_some_iff] at h
    simp only [h]
    rfl

theorem submitted_of_not_switches
    (h : ∀ on, ¬ Switches (KeyMap.findEntry (statusKey x) fields) on) :
    submitted x fields = .error ⟨statusKey x, "must be a boolean"⟩ := by
  unfold submitted
  cases hfound : KeyMap.findEntry (statusKey x) fields with
  | none => exact absurd (hfound ▸ .absent) (h false)
  | some j =>
    cases hflag : j.flag? with
    | none =>
      simp only [hflag]
      rfl
    | some on => exact absurd (hfound ▸ switches_some_iff.2 hflag) (h on)

theorem submitted_eq_ok_iff {setting : BehaviorSetting} :
    submitted x fields = .ok setting ↔ Submits (.object fields) x setting := by
  constructor
  · intro h
    by_cases hswitch : ∃ on, Switches (KeyMap.findEntry (statusKey x) fields) on
    · obtain ⟨on, hon⟩ := hswitch
      rw [submitted_of_switches hon] at h
      suffices hmade : setting.status = on ∧
          Words (KeyMap.findEntry (wordingKey x) fields) setting.wording from
        ⟨hmade.1.symm ▸ hon, hmade.2⟩
      split at h
      · rename_i hnone
        cases h
        exact ⟨rfl, hnone.symm ▸ .absent⟩
      · rename_i hnull
        cases h
        exact ⟨rfl, hnull.symm ▸ .null⟩
      · rename_i wording htext
        cases h
        exact ⟨rfl, htext.symm ▸ .text wording⟩
      · cases h
    · rw [submitted_of_not_switches (not_exists.1 hswitch)] at h
      cases h
  · rintro ⟨hstatus, hwording⟩
    rw [submitted_of_switches hstatus]
    obtain ⟨status, wording⟩ := setting
    change Words (KeyMap.findEntry (wordingKey x) fields) wording at hwording
    generalize KeyMap.findEntry (wordingKey x) fields = found at hwording
    cases hwording <;> rfl

end Submitted

theorem setting_on (up : s.Up .configGet) {id : String} {setting : BehaviorSetting}
    (h : s.blobs.get? (Behavior.settingKey id entityType bundle) = some setting.toJson) :
    (Behaviors.setting id entityType bundle).on s = (.ok (some setting), s) :=
  getStored_of_get? up h setting.ofJson?_toJson

section Saved

def putSetting (s : Service) (entityType bundle id : String) (setting : BehaviorSetting) :
    Service :=
  { s with
    blobs := s.blobs.insert (Behavior.settingKey id entityType bundle) setting.toJson
    tags := s.tags.invalidate [bundleTag entityType bundle] }

theorem require_on (id : String) (s : Service) :
    (∃ b, (Behaviors.require id).on s = (.ok b, s)) ∨
      (∀ x ∈ s.behaviors, x.id ≠ id) ∧ ∃ e, (Behaviors.require id).on s = (.error e, s) := by
  have hfind : (Behaviors.find? id).on s = (.ok (s.behaviors.find? fun b => b.id == id), s) := rfl
  rw [Behaviors.require, Step.on_bind_ok hfind]
  cases hfound : s.behaviors.find? fun b => b.id == id with
  | none => exact .inr ⟨fun x hx => by simpa using List.find?_eq_none.1 hfound x hx, _, rfl⟩
  | some b => exact .inl ⟨b, rfl⟩

theorem saveSetting_on (up : s.Up .configSet) (hx : x ∈ s.behaviors) (entityType bundle : String)
    (setting : BehaviorSetting) :
    (saveSetting x.id entityType bundle setting).on s =
      (.ok (), putSetting s entityType bundle x.id setting) := by
  obtain ⟨b, hrequire⟩ : ∃ b, (Behaviors.require x.id).on s = (.ok b, s) := by
    rcases require_on x.id s with hfound | ⟨hnone, -⟩
    · exact hfound
    · exact absurd rfl (hnone x hx)
  have hset : (setStored (Behavior.settingKey x.id entityType bundle) setting).on s = (.ok (),
      { s with
        blobs := s.blobs.insert (Behavior.settingKey x.id entityType bundle) setting.toJson }) := by
    rcases setBlob_on (Behavior.settingKey x.id entityType bundle) setting.toJson s with
      ⟨-, hset⟩ | ⟨e, hdown, -⟩
    · exact hset
    · exact absurd up hdown
  rw [saveSetting, Step.on_bind_ok hrequire, Step.on_bind_ok hset]
  rfl

/-- All settings are stored, each as it depends on the id of its behavior, no other blob changes,
and the tag of the bundle is invalidated for every behavior. -/
theorem saveAll_on (up : behaviors = [] ∨ s.Up .configSet) (entityType bundle : String)
    (settingFor : String → BehaviorSetting) (hregistered : ∀ x ∈ behaviors, x ∈ s.behaviors) :
    ∃ s', (saveAll entityType bundle (behaviors.map fun x => (x, settingFor x.id))).on s =
      (.ok (), s') ∧ s'.backend = s.backend ∧
      (∀ x ∈ behaviors, s'.blobs.get? (Behavior.settingKey x.id entityType bundle) =
        some (settingFor x.id).toJson) ∧
      (∀ key, (∀ x ∈ behaviors, key ≠ Behavior.settingKey x.id entityType bundle) →
        s'.blobs.get? key = s.blobs.get? key) ∧
      ∀ tag, s'.tags.invalidations tag = s.tags.invalidations tag +
        if tag = bundleTag entityType bundle then behaviors.length else 0 := by
  induction behaviors generalizing s with
  | nil => exact ⟨s, rfl, rfl, fun x hx => absurd hx List.not_mem_nil, fun _ _ => rfl, by simp⟩
  | cons x rest ih =>
    replace up : s.Up .configSet := up.resolve_left (List.cons_ne_nil x rest)
    have hfirst := saveSetting_on up (hregistered x List.mem_cons_self) entityType bundle
      (settingFor x.id)
    obtain ⟨s', hrest, hbackend, hstored, hother, htags⟩ :=
      ih (s := putSetting s entityType bundle x.id (settingFor x.id)) (.inr up)
        fun y hy => hregistered y (List.mem_cons_of_mem _ hy)
    refine ⟨s', ?_, hbackend, fun y hy => ?_, fun key hkey => ?_, fun tag => ?_⟩
    · rw [List.map_cons, saveAll, Step.on_bind_ok hfirst, hrest]
    · -- a later behavior of the same id stores the same setting again
      by_cases hlater : ∃ z ∈ rest, z.id = y.id
      · obtain ⟨z, hz, hid⟩ := hlater
        exact hid ▸ hstored z hz
      · have hne : ∀ z ∈ rest, Behavior.settingKey y.id entityType bundle ≠
            Behavior.settingKey z.id entityType bundle :=
          fun z hz hkey => hlater ⟨z, hz, (Behavior.settingKey_inj.1 hkey).symm⟩
        rw [hother _ hne]
        rcases List.mem_cons.1 hy with rfl | hy
        · simp [putSetting]
        · exact absurd ⟨y, hy, rfl⟩ hlater
    · have hne : Behavior.settingKey x.id entityType bundle ≠ key :=
        (hkey x List.mem_cons_self).symm
      rw [hother key fun y hy => hkey y (List.mem_cons_of_mem _ hy)]
      simp [putSetting, hne]
    · rw [htags, putSetting, CacheTags.invalidations_invalidate, List.count_singleton]
      by_cases htag : tag = bundleTag entityType bundle
      · simp [htag, Nat.add_assoc, Nat.add_comm]
      · simp [htag, Ne.symm htag]

theorem saveAll_of_down (down : ¬ s.Up .configSet) (entityType bundle : String)
    {settings : List (Behavior × BehaviorSetting)} (hsome : settings ≠ []) :
    ∃ e, (saveAll entityType bundle settings).on s = (.error e, s) := by
  obtain ⟨⟨x, setting⟩, rest, rfl⟩ := List.exists_cons_of_ne_nil hsome
  have hfirst : ∃ e, (saveSetting x.id entityType bundle setting).on s = (.error e, s) := by
    unfold saveSetting
    rcases require_on x.id s with ⟨b, hrequire⟩ | ⟨-, e, hrequire⟩
    · rcases setBlob_on (Behavior.settingKey x.id entityType bundle) setting.toJson s with
        ⟨up, -⟩ | ⟨e, -, hset⟩
      · exact absurd up down
      · rw [Step.on_bind_ok hrequire]
        exact ⟨e, Step.on_bind_error hset⟩
    · exact ⟨e, Step.on_bind_error hrequire⟩
  obtain ⟨e, he⟩ := hfirst
  exact ⟨e, Step.on_bind_error he⟩

end Saved

section Submit

theorem submit_of_submitted (h : ∀ x ∈ s.behaviors, submitted x fields = .ok (settingFor x.id)) :
    (submit entityType bundle (.object fields)).on s =
      (saveAll entityType bundle (s.behaviors.map fun x => (x, settingFor x.id))).on s := by
  have hcomplaints : complaints s.behaviors fields = [] := by
    refine List.filterMap_eq_nil_iff.2 fun x hx => ?_
    simp only [h x hx]
  have hsettings :
      (s.behaviors.filterMap fun b => (submitted b fields).toOption.map fun x => (b, x)) =
      s.behaviors.map fun x => (x, settingFor x.id) := by
    rw [← List.filterMap_eq_map]
    refine List.filterMap_congr fun x hx => ?_
    simp only [h x hx, Except.toOption, Option.map_some, Function.comp_apply]
  simp only [submit, Step.on_bind_ok (Step.on_get s), hcomplaints, hsettings, List.isEmpty_nil,
    Bool.not_true, Bool.false_eq_true, if_false]

/-- A behavior whose values are refused is complained about before anything is saved. -/
theorem submit_of_refused (hx : x ∈ s.behaviors) {e : FormError}
    (h : submitted x fields = .error e) : (submit entityType bundle (.object fields)).on s =
      (.error (.validation (complaints s.behaviors fields)), s) := by
  have hsome : (complaints s.behaviors fields).isEmpty = false := by
    rw [List.isEmpty_eq_false_iff_exists_mem]
    exact ⟨e, List.mem_filterMap.2 ⟨x, hx, by simp only [h]⟩⟩
  simp only [submit, Step.on_bind_ok (Step.on_get s), hsome, Bool.not_false, if_true]
  exact Step.on_bind_error (Step.on_throw _ s)

/-- The values of an object submit a setting for every behavior, or some of them are refused. -/
theorem submits_or_refused (behaviors : List Behavior) (fields : List (String × Json)) :
    (∃ settingFor : String → BehaviorSetting,
        ∀ x ∈ behaviors, submitted x fields = .ok (settingFor x.id)) ∨
      ∃ x ∈ behaviors, ∃ e, submitted x fields = .error e := by
  by_cases hrefused : ∃ x ∈ behaviors, ∃ e, submitted x fields = .error e
  · exact .inr hrefused
  · -- what is submitted for a behavior depends on its id alone
    refine .inl ⟨fun id => (submitted { id, title := "" } fields).toOption.getD {}, fun x hx => ?_⟩
    have hsame : submitted { id := x.id, title := "" } fields = submitted x fields := rfl
    cases h : submitted x fields with
    | error e => exact absurd ⟨x, hx, e, h⟩ hrefused
    | ok setting =>
      simp only [hsame, h]
      rfl

end Submit

/-- The values are those of a form in which every behavior has a setting. -/
def Accepted (values : Json) (behaviors : List Behavior) : Prop :=
  values.fields?.isSome ∧ ∀ x ∈ behaviors, ∃ setting, Submits values x setting

/-- A submitted form leaves everything as it was, settings and tags, unless all its values are
accepted. Then the setting of every behavior is read back as it was submitted, no other blob has
changed, and the tag of the bundle was invalidated once for every behavior, and no other tag.
Accepted values are refused only where settings cannot be written at all. -/
theorem submit_all_or_nothing (s : Service) (entityType bundle : String) (values : Json) :
    (∃ e, (submit entityType bundle values).on s = (.error e, s) ∧
      (s.Up .configSet → ¬ Accepted values s.behaviors)) ∨
    ∃ s', (submit entityType bundle values).on s = (.ok (), s') ∧ Accepted values s.behaviors ∧
      (∀ x ∈ s.behaviors, ∃ saved, Submits values x saved ∧
        (s.Up .configGet → ((setting x.id entityType bundle).on s').1 = .ok (some saved))) ∧
      (∀ key, (∀ x ∈ s.behaviors, key ≠ Behavior.settingKey x.id entityType bundle) →
        s'.blobs.get? key = s.blobs.get? key) ∧
      ∀ tag, s'.tags.invalidations tag = s.tags.invalidations tag +
        if tag = bundleTag entityType bundle then s.behaviors.length else 0 := by
  cases hvalues : values.fields? with
  | none =>
    have hthrow : (submit entityType bundle values).on s =
        (.error (.ofElement "" "form values must be an object"), s) := by
      cases values with
      | object fields => cases hvalues
      | _ => rfl
    exact .inl ⟨_, hthrow, fun _ h => by simp [Accepted, hvalues] at h⟩
  | some fields =>
    obtain rfl : values = .object fields := by
      cases values <;> cases hvalues
      rfl
    rcases submits_or_refused s.behaviors fields with ⟨settingFor, h⟩ | ⟨x, hx, e, h⟩
    · have hsave : (submit entityType bundle (.object fields)).on s =
          (saveAll entityType bundle (s.behaviors.map fun x => (x, settingFor x.id))).on s :=
        submit_of_submitted h
      have hsubmits : ∀ x ∈ s.behaviors, Submits (.object fields) x (settingFor x.id) :=
        fun x hx => submitted_eq_ok_iff.1 (h x hx)
      by_cases up : s.behaviors = [] ∨ s.Up .configSet
      · obtain ⟨s', hsaved, hbackend, hstored, hother, htags⟩ :=
          saveAll_on up entityType bundle settingFor fun x (hx : x ∈ s.behaviors) => hx
        refine .inr ⟨s', hsave.trans hsaved, ⟨rfl, fun x hx => ⟨_, hsubmits x hx⟩⟩,
          fun x hx => ⟨_, hsubmits x hx, fun get => ?_⟩, hother, htags⟩
        have hget : s'.Up .configGet := by rwa [Service.Up, hbackend]
        rw [setting_on hget (hstored x hx)]
      · obtain ⟨hsome, hdown⟩ := not_or.1 up
        have hwritten : (s.behaviors.map fun x => (x, settingFor x.id)) ≠ [] := by simpa using hsome
        obtain ⟨e, he⟩ := saveAll_of_down hdown entityType bundle hwritten
        exact .inl ⟨e, hsave.trans he, fun hup => absurd hup hdown⟩
    · refine .inl ⟨_, submit_of_refused hx h, fun _ haccepted => ?_⟩
      obtain ⟨setting, hsetting⟩ := haccepted.2 x hx
      rw [← submitted_eq_ok_iff, h] at hsetting
      cases hsetting

def selecting : Service where
  blobs := KeyMap.empty.insert (Behavior.settingKey "select" "node" "article")
    (BehaviorSetting.toJson ⟨true, "@synonym!"⟩)

def filledIn : List (String × Json) :=
  [("autocomplete.status", .ofNat 1), ("autocomplete.wording", .null),
  ("select.status", .bool false), ("select.wording", .string "@synonym?")]

def halfFilledIn : List (String × Json) := [("autocomplete.status", .bool true),
  ("search.status", .number (.integer (-1)))]

theorem submit_all_or_nothing_select :
    (∃ e, (submit "node" "article" (.object halfFilledIn)).on selecting = (.error e, selecting)) ∧
    ∃ s', (submit "node" "article" (.object filledIn)).on selecting = (.ok (), s') ∧
      ((setting "select" "node" "article").on s').1 = .ok (some ⟨false, "@synonym?"⟩) ∧
      s'.tags.invalidations (bundleTag "node" "article") = 3 := by
  refine ⟨?_, ?_⟩
  · rcases submit_all_or_nothing selecting "node" "article" (.object halfFilledIn) with
      ⟨e, he, -⟩ | ⟨s', -, haccepted, -⟩
    · exact ⟨e, he⟩
    · obtain ⟨found, hfound⟩ := haccepted.2 Behavior.search (by decide)
      cases hfound.status
  · have haccepted : Accepted (.object filledIn) selecting.behaviors := by
      refine ⟨rfl, fun x hx => ?_⟩
      rcases (by simpa [selecting, Behavior.builtin] using hx :
        x = .autocomplete ∨ x = .select ∨ x = .search) with rfl | rfl | rfl
      · exact ⟨⟨true, ""⟩, .number 1, .null⟩
      · exact ⟨⟨false, "@synonym?"⟩, .flag false, .text _⟩
      · exact ⟨⟨false, ""⟩, .absent, .absent⟩
    rcases submit_all_or_nothing selecting "node" "article" (.object filledIn) with
      ⟨e, -, hrefused⟩ | ⟨s', hok, -, hread, -, htags⟩
    · exact absurd haccepted (hrefused rfl)
    · obtain ⟨saved, hsubmits, hsaved⟩ := hread Behavior.select (by decide)
      have hmade : submitted Behavior.select filledIn = .ok saved := submitted_eq_ok_iff.2 hsubmits
      have hsame : submitted Behavior.select filledIn = .ok ⟨false, "@synonym?"⟩ := rfl
      rw [hsame] at hmade
      cases hmade
      refine ⟨s', hok, hsaved rfl, ?_⟩
      rw [htags]
      rfl

end Behaviors
end SynonymLookup
