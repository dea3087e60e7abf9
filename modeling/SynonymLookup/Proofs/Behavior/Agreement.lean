import SynonymLookup.Proofs.Behavior.Submission
import SynonymLookup.Proofs.Wording.Fallback

/-! The two readings of a behavior's setting: as a whole, and of its status alone. Wherever the
whole can be read they agree, and a status that cannot be read counts as off. The status counts
whatever the wording is, so a behavior can be on whose setting cannot be read. -/

namespace SynonymLookup

namespace BehaviorSetting

variable {fields : List (String × Json)} {x : BehaviorSetting}

/-- A setting is read from an object field by field. -/
theorem fields_of_ofJson? (h : ofJson? (.object fields) = some x) :
    (Record.mk fields).withDefault "status" Json.flag? false = some x.status ∧
      (Record.mk fields).withDefault "wording" Json.string? "" = some x.wording := by
  unfold ofJson? at h
  obtain ⟨r, hr, h⟩ := Option.bind_eq_some_iff.1 h
  obtain ⟨status, hstatus, h⟩ := Option.bind_eq_some_iff.1 h
  obtain ⟨wording, hwording, h⟩ := Option.bind_eq_some_iff.1 h
  cases h
  have hfields : r = ⟨fields⟩ := by
    simp only [Json.record?, Json.openRecord?] at hr
    split at hr
    · exact (Option.some.inj hr).symm
    · cases hr
  subst hfields
  exact ⟨hstatus, hwording⟩

theorem switches_of_ofJson? (h : ofJson? (.object fields) = some x) :
    Behaviors.Switches (KeyMap.findEntry "status" fields) x.status := by
  have hstatus := (fields_of_ofJson? h).1
  rw [Record.withDefault, Record.get?] at hstatus
  cases hfound : KeyMap.findEntry "status" fields with
  | none =>
    rw [hfound] at hstatus
    rw [← Option.some.inj hstatus]
    exact .absent
  | some j =>
    rw [hfound] at hstatus
    exact Behaviors.switches_some_iff.2 hstatus

theorem text_of_ofJson? (h : ofJson? (.object fields) = some x) {wording : Json}
    (hwording : KeyMap.findEntry "wording" fields = some wording) :
    ∃ text, wording = .string text := by
  have hread := (fields_of_ofJson? h).2
  rw [Record.withDefault, Record.get?, hwording] at hread
  cases wording with
  | string text => exact ⟨text, rfl⟩
  | _ => cases hread

end BehaviorSetting

namespace Behaviors

open Service Repository

variable {s : Service} {behavior entityType bundle : String} {found : Option BehaviorSetting}

def storedField (s : Service) (behavior entityType bundle name : String) : Option Json :=
  (s.blobs.get? (Behavior.settingKey behavior entityType bundle)).bind (·.field? name)

/-- An object is stored for a behavior and a bundle, or nothing. -/
def StoresObject (s : Service) (behavior entityType bundle : String) : Prop :=
  ∀ j, s.blobs.get? (Behavior.settingKey behavior entityType bundle) = some j →
    ∃ fields, j = .object fields

section Switch

theorem isEnabled_on (up : s.Up .configGet) (behavior entityType bundle : String) :
    (isEnabled behavior entityType bundle).on s = (.ok (isOn s behavior entityType bundle), s) := by
  have hstatus : (getProperty (Behavior.settingKey behavior entityType bundle) "status").on s =
      (.ok (storedField s behavior entityType bundle "status"), s) :=
    Step.on_bind_ok (getBlob_of_up up _)
  exact Step.on_bind_ok hstatus

theorem isOn_eq : isOn s behavior entityType bundle =
    ((storedField s behavior entityType bundle "status").bind Json.flag?).getD false := rfl

theorem isOn_of_switches {on : Bool}
    (h : Switches (storedField s behavior entityType bundle "status") on) :
    isOn s behavior entityType bundle = on := by
  rw [isOn_eq]
  cases hstatus : storedField s behavior entityType bundle "status" with
  | none =>
    rw [hstatus] at h
    cases h
    rfl
  | some status =>
    rw [hstatus, switches_some_iff] at h
    rw [Option.bind_some, h, Option.getD_some]

theorem isOn_of_not_switches
    (h : ∀ on, ¬ Switches (storedField s behavior entityType bundle "status") on) :
    isOn s behavior entityType bundle = false := by
  rw [isOn_eq]
  cases hstatus : storedField s behavior entityType bundle "status" with
  | none => rfl
  | some status =>
    cases hflag : status.flag? with
    | none => rw [Option.bind_some, hflag, Option.getD_none]
    | some on => exact absurd (hstatus ▸ switches_some_iff.2 hflag) (h on)

end Switch

section Setting

theorem stored_of_setting (up : s.Up .configGet)
    (object : StoresObject s behavior entityType bundle)
    (h : ((Behaviors.setting behavior entityType bundle).on s).1 = .ok found) :
    s.blobs.get? (Behavior.settingKey behavior entityType bundle) = none ∧ found = none ∨
      ∃ fields x, s.blobs.get? (Behavior.settingKey behavior entityType bundle) =
        some (.object fields) ∧
        BehaviorSetting.ofJson? (.object fields) = some x ∧ found = some x := by
  have hread := (getStored_yields up _).fst_eq_ok_iff.1 h
  unfold read? at hread
  cases hblob : s.blobs.get? (Behavior.settingKey behavior entityType bundle) with
  | none =>
    rw [hblob] at hread
    exact .inl ⟨rfl, (Option.some.inj hread).symm⟩
  | some j =>
    obtain ⟨fields, rfl⟩ := object j hblob
    rw [hblob] at hread
    obtain ⟨x, hx, rfl⟩ := Option.map_eq_some_iff.1 hread
    exact .inr ⟨fields, x, rfl, hx, rfl⟩

theorem storedField_of_none
    (h : s.blobs.get? (Behavior.settingKey behavior entityType bundle) = none) (name : String) :
    storedField s behavior entityType bundle name = none := by rw [storedField, h, Option.bind_none]

theorem storedField_of_object {fields : List (String × Json)}
    (h : s.blobs.get? (Behavior.settingKey behavior entityType bundle) = some (.object fields))
    (name : String) : storedField s behavior entityType bundle name =
      KeyMap.findEntry name fields := by
  rw [storedField, h, Option.bind_some, Json.field?]

theorem switches_of_setting (up : s.Up .configGet)
    (object : StoresObject s behavior entityType bundle)
    (h : ((Behaviors.setting behavior entityType bundle).on s).1 = .ok found) :
    Switches (storedField s behavior entityType bundle "status")
      ((found.map (·.status)).getD false) := by
  obtain ⟨hblob, rfl⟩ | ⟨fields, x, hblob, hx, rfl⟩ := stored_of_setting up object h
  · rw [storedField_of_none hblob]
    exact .absent
  · rw [storedField_of_object hblob]
    exact BehaviorSetting.switches_of_ofJson? hx

theorem text_of_setting (up : s.Up .configGet) (object : StoresObject s behavior entityType bundle)
    (h : ((Behaviors.setting behavior entityType bundle).on s).1 = .ok found) {wording : Json}
    (hwording : storedField s behavior entityType bundle "wording" = some wording) :
    ∃ text, wording = .string text := by
  obtain ⟨hblob, rfl⟩ | ⟨fields, x, hblob, hx, rfl⟩ := stored_of_setting up object h
  · rw [storedField_of_none hblob] at hwording
    cases hwording
  · rw [storedField_of_object hblob] at hwording
    exact BehaviorSetting.text_of_ofJson? hx hwording

end Setting

/-- Where an object or nothing is stored for a bundle, it can always be told whether the behavior
is on, and nothing changes. Where the setting can be read, it is on as the setting says, and off
if there is none. A status that is neither a boolean nor a natural number counts as off, and the
setting is refused. But if only the wording cannot be read, the setting is refused and the
behavior is on as the status says. -/
theorem setting_and_switch_agree (up : s.Up .configGet)
    (object : StoresObject s behavior entityType bundle) :
    let reading := ((Behaviors.setting behavior entityType bundle).on s).1
    let answer := ((isEnabled behavior entityType bundle).on s).1
    (∃ on, (isEnabled behavior entityType bundle).on s = (.ok on, s)) ∧
    (∀ found, reading = .ok found → answer = .ok ((found.map (·.status)).getD false)) ∧
    (∀ status, storedField s behavior entityType bundle "status" = some status →
      (∀ on, status ≠ .bool on) → (∀ n, status ≠ .ofNat n) →
      answer = .ok false ∧ ∃ e, reading = .error e) ∧
    ∀ wording, storedField s behavior entityType bundle "wording" = some wording →
      (∀ text, wording ≠ .string text) →
      (∃ e, reading = .error e) ∧
        ∀ on, Switches (storedField s behavior entityType bundle "status") on →
        answer = .ok on := by
  intro reading answer
  have hanswer : answer = .ok (isOn s behavior entityType bundle) :=
    congrArg Prod.fst (isEnabled_on up behavior entityType bundle)
  have hrefused (h : ∀ found, reading ≠ .ok found) : ∃ e, reading = .error e := by
    cases hreading : reading with
    | error e => exact ⟨e, rfl⟩
    | ok found => exact absurd hreading (h found)
  refine ⟨⟨_, isEnabled_on up behavior entityType bundle⟩, fun found hfound => ?_,
    fun status hstatus hbool hnat => ?_, fun wording hwording htext => ⟨?_, fun on hon => ?_⟩⟩
  · rw [hanswer, isOn_of_switches (switches_of_setting up object hfound)]
  · have hnot : ∀ on, ¬ Switches (storedField s behavior entityType bundle "status") on := by
      rw [hstatus]
      rintro on (_ | _ | n)
      · exact hbool on rfl
      · exact hnat n rfl
    refine ⟨by rw [hanswer, isOn_of_not_switches hnot], hrefused fun found hfound => ?_⟩
    exact hnot _ (switches_of_setting up object hfound)
  · refine hrefused fun found hfound => ?_
    obtain ⟨text, rfl⟩ := text_of_setting up object hfound hwording
    exact htext text rfl
  · rw [hanswer, isOn_of_switches hon]

/-- The select widget is switched on for articles, with a wording that is not a text. -/
def unworded : Service where
  blobs := KeyMap.empty.insert (Behavior.settingKey "select" "node" "article")
    (Json.ofFields [("status", .bool true), ("wording", .ofNat 5)])

theorem setting_and_switch_agree_unworded :
    unworded.Up .configGet ∧ StoresObject unworded "select" "node" "article" ∧
    ((isEnabled "select" "node" "article").on unworded).1 = .ok true ∧
    ∃ e, ((Behaviors.setting "select" "node" "article").on unworded).1 = .error e := by
  have up : unworded.Up .configGet := rfl
  have object : StoresObject unworded "select" "node" "article" := by
    rintro j ⟨⟩
    exact ⟨_, rfl⟩
  obtain ⟨-, -, -, hwording⟩ := setting_and_switch_agree up object
  obtain ⟨hrefused, hon⟩ := hwording (.ofNat 5) rfl fun text => nofun
  exact ⟨up, object, hon true (.flag true), hrefused⟩

/-- So a setting that cannot be read can switch a behavior on. -/
theorem on_with_unreadable_wording :
    ((Behaviors.setting "select" "node" "article").on unworded).1 =
      .error (.storage (.malformedValue (Behavior.settingKey "select" "node" "article") none)) ∧
    ((isEnabled "select" "node" "article").on unworded).1 = .ok true := by
  constructor
  · rfl
  · rfl

end Behaviors
end SynonymLookup
