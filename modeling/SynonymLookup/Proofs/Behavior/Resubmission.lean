import SynonymLookup.Proofs.Behavior.Submission

/-! The form of all behaviors, sent back as it was shown. A form holds the switch of every
behavior, and the wording of a widget where wordings of behaviors count. What is submitted replaces
the whole setting, and a wording that is not submitted counts as empty: so a wording comes back
exactly if the form shows it. -/

namespace SynonymLookup

namespace Behaviors

open Service Repository

variable {s : Service} {entityType bundle : String} {wordingType : WordingType}
  {behaviors : List Behavior} {x y : Behavior}

theorem statusKey_inj : statusKey x = statusKey y ↔ x.id = y.id := by simp [statusKey]

theorem wordingKey_inj : wordingKey x = wordingKey y ↔ x.id = y.id := by simp [wordingKey]

theorem statusKey_ne_wordingKey (x y : Behavior) : statusKey x ≠ wordingKey y := by
  intro h
  have hlast := congrArg (fun key : String => key.toList.getLast?) h
  simp [statusKey, wordingKey] at hlast

def shownValues (form : List FormElement) : Json :=
  Json.ofFields (form.map fun e => (e.key, e.defaultValue))

/-- The setting that stands for a behavior, the default if none is stored. -/
def settingOf (s : Service) (id entityType bundle : String) : BehaviorSetting :=
  ((s.blobs.get? (Behavior.settingKey id entityType bundle)).bind BehaviorSetting.ofJson?).getD {}

def showsWording (behaviors : List Behavior) (wordingType : WordingType) (id : String) : Bool :=
  wordingType.usesBehavior && behaviors.any fun x => x.id == id && x.isWidget

/-- What a setting becomes when the form is sent back. -/
def sentBack (behaviors : List Behavior) (wordingType : WordingType) (id : String)
    (x : BehaviorSetting) : BehaviorSetting :=
  { x with wording := if showsWording behaviors wordingType id then x.wording else "" }

section Read

theorem of_setting {id : String} {found : Option BehaviorSetting}
    (h : ((Behaviors.setting id entityType bundle).on s).1 = .ok found) :
    s.Up .configGet ∧ (Behaviors.setting id entityType bundle).on s = (.ok found, s) ∧
      found.getD {} = settingOf s id entityType bundle := by
  have hup : s.Up .configGet := by
    rcases getBlob_on (Behavior.settingKey id entityType bundle) s with ⟨up, -⟩ | ⟨e, -, hblob⟩
    · exact up
    · rw [Behaviors.setting, getStored, Step.on_bind_error hblob] at h
      cases h
  rcases getStored_on (α := BehaviorSetting) (Behavior.settingKey id entityType bundle) s with
    ⟨hnone, hon⟩ | ⟨j, setting, hj, hread, hon⟩ | ⟨e, hon, -⟩
  · rw [Behaviors.setting, hon] at h
    cases h
    exact ⟨hup, hon, by simp [settingOf, hnone]⟩
  · rw [Behaviors.setting, hon] at h
    cases h
    replace hread : BehaviorSetting.ofJson? j = some setting := hread
    exact ⟨hup, hon, by simp [settingOf, hj, hread]⟩
  · rw [Behaviors.setting, hon] at h
    cases h

/-- A form shows the settings that stand, and leaves everything as it is. -/
theorem of_formOf {elements : List FormElement}
    (h : ((formOf entityType bundle wordingType behaviors).on s).1 = .ok elements) :
    (formOf entityType bundle wordingType behaviors).on s = (.ok elements, s) ∧
      elements = behaviors.flatMap (fun x =>
        Behaviors.elements x (settingOf s x.id entityType bundle) wordingType) ∧
      ∀ x ∈ behaviors, ∃ found, ((Behaviors.setting x.id entityType bundle).on s).1 =
        .ok found := by
  induction behaviors generalizing elements with
  | nil =>
    cases h
    exact ⟨rfl, rfl, fun x hx => absurd hx List.not_mem_nil⟩
  | cons x rest ih =>
    cases hsetting : ((Behaviors.setting x.id entityType bundle).on s).1 with
    | error e =>
      rw [formOf, Step.on_bind_error (Step.on_eq_of_fst hsetting)] at h
      cases h
    | ok found =>
      obtain ⟨-, hon, hstands⟩ := of_setting hsetting
      cases hrest : ((formOf entityType bundle wordingType rest).on s).1 with
      | error e =>
        rw [formOf, Step.on_bind_ok hon, Step.on_bind_error (Step.on_eq_of_fst hrest)] at h
        cases h
      | ok later =>
        obtain ⟨hlater, rfl, hread⟩ := ih hrest
        have hform : (formOf entityType bundle wordingType (x :: rest)).on s =
            (.ok (Behaviors.elements x (settingOf s x.id entityType bundle) wordingType ++
              rest.flatMap fun x =>
                Behaviors.elements x (settingOf s x.id entityType bundle) wordingType), s) := by
          rw [formOf, Step.on_bind_ok hon, Step.on_bind_ok hlater, hstands]
          rfl
        rw [hform] at h
        cases h
        refine ⟨hform, rfl, fun y hy => ?_⟩
        rcases List.mem_cons.1 hy with rfl | hy
        · exact ⟨found, hsetting⟩
        · exact hread y hy

end Read

section Shown

variable (s : Service) (entityType bundle : String) (wordingType : WordingType)
  (behaviors : List Behavior)

def shownFields : List (String × Json) :=
  (behaviors.flatMap fun x =>
    elements x (settingOf s x.id entityType bundle) wordingType).map fun e =>
    (e.key, e.defaultValue)

variable {s entityType bundle wordingType behaviors}

theorem mem_shownFields_iff {key : String} {value : Json} :
    (key, value) ∈ shownFields s entityType bundle wordingType behaviors ↔ ∃ x ∈ behaviors,
      (key = statusKey x ∧ value = .bool (settingOf s x.id entityType bundle).status) ∨
      (wordingType.usesBehavior = true ∧ x.isWidget = true ∧ key = wordingKey x ∧
        value = .string (settingOf s x.id entityType bundle).wording) := by
  simp only [shownFields, List.map_flatMap, List.mem_flatMap]
  refine exists_congr fun x => and_congr_right fun _ => ?_
  cases hwidget : x.widgetTitle with
  | none => simp [elements, hwidget, FormElement.checkbox, Behavior.isWidget]
  | some title =>
    by_cases huses : wordingType.usesBehavior = true
    · simp [elements, hwidget, huses, FormElement.checkbox, FormElement.textfield,
        FormElement.withDescription, Behavior.isWidget]
    · simp [elements, hwidget, huses, FormElement.checkbox]

theorem status_shown (s : Service) (entityType bundle : String) (wordingType : WordingType)
    (hx : x ∈ behaviors) :
    (KeyMap.ofList (shownFields s entityType bundle wordingType behaviors)).get? (statusKey x) =
      some (.bool (settingOf s x.id entityType bundle).status) := by
  refine KeyMap.get?_ofList_of_unique
    (mem_shownFields_iff.2 ⟨x, hx, .inl ⟨rfl, rfl⟩⟩) fun w hw => ?_
  obtain ⟨y, -, ⟨hkey, rfl⟩ | ⟨-, -, hkey, -⟩⟩ := mem_shownFields_iff.1 hw
  · rw [statusKey_inj.1 hkey]
  · exact absurd hkey (statusKey_ne_wordingKey x y)

theorem wording_shown (s : Service) (entityType bundle : String) (wordingType : WordingType)
    (behaviors : List Behavior) (x : Behavior) :
    (KeyMap.ofList (shownFields s entityType bundle wordingType behaviors)).get? (wordingKey x) =
      if showsWording behaviors wordingType x.id then
        some (.string (settingOf s x.id entityType bundle).wording) else none := by
  by_cases hshows : showsWording behaviors wordingType x.id = true
  · rw [if_pos hshows]
    obtain ⟨huses, y, hy, hid, hwidget⟩ : wordingType.usesBehavior = true ∧
        ∃ y ∈ behaviors, y.id = x.id ∧ y.isWidget = true := by simpa [showsWording] using hshows
    have hmem : (wordingKey x, .string (settingOf s x.id entityType bundle).wording) ∈
        shownFields s entityType bundle wordingType behaviors :=
      mem_shownFields_iff.2 ⟨y, hy, .inr ⟨huses, hwidget, (wordingKey_inj.2 hid).symm, by rw [hid]⟩⟩
    refine KeyMap.get?_ofList_of_unique hmem fun w hw => ?_
    obtain ⟨z, -, ⟨hkey, -⟩ | ⟨-, -, hkey, rfl⟩⟩ := mem_shownFields_iff.1 hw
    · exact absurd hkey.symm (statusKey_ne_wordingKey z x)
    · rw [wordingKey_inj.1 hkey]
  · rw [if_neg hshows, KeyMap.get?_ofList, KeyMap.findEntry_eq_none_iff]
    rintro ⟨key, value⟩ hmem rfl
    obtain ⟨y, hy, ⟨hkey, -⟩ | ⟨huses, hwidget, hkey, -⟩⟩ :=
      mem_shownFields_iff.1 (List.mem_reverse.1 hmem)
    · exact statusKey_ne_wordingKey y x hkey.symm
    · refine hshows ?_
      have hid : y.id = x.id := (wordingKey_inj.1 hkey).symm
      simp only [showsWording, huses, Bool.true_and, List.any_eq_true]
      exact ⟨y, hy, by simp [hid, hwidget]⟩

theorem submitted_shown (hx : x ∈ behaviors) :
    submitted x (KeyMap.ofList (shownFields s entityType bundle wordingType behaviors)).entries =
      .ok (sentBack behaviors wordingType x.id (settingOf s x.id entityType bundle)) := by
  have hstatus := status_shown s entityType bundle wordingType hx
  have hwording := wording_shown s entityType bundle wordingType behaviors x
  rw [KeyMap.get?] at hstatus hwording
  simp only [submitted, hstatus, hwording, Json.flag?, sentBack]
  by_cases hshows : showsWording behaviors wordingType x.id = true
  · simp only [if_pos hshows]
    rfl
  · simp only [if_neg hshows]
    rfl

end Shown

/-- A form that is sent back as it was shown is accepted, and stores what it shows. -/
theorem submit_shown (up : s.Up .configSet) (entityType bundle : String)
    (wordingType : WordingType) :
    ∃ s', (submit entityType bundle
        (Json.ofFields (shownFields s entityType bundle wordingType s.behaviors))).on s =
          (.ok (), s') ∧
      s'.backend = s.backend ∧
      (∀ x ∈ s.behaviors, s'.blobs.get? (Behavior.settingKey x.id entityType bundle) =
        some (sentBack s.behaviors wordingType x.id (settingOf s x.id entityType bundle)).toJson) ∧
      ∀ key, (∀ x ∈ s.behaviors, key ≠ Behavior.settingKey x.id entityType bundle) →
        s'.blobs.get? key = s.blobs.get? key := by
  let fields := (KeyMap.ofList (shownFields s entityType bundle wordingType s.behaviors)).entries
  let settingFor := fun id => sentBack s.behaviors wordingType id (settingOf s id entityType bundle)
  have hsubmitted : ∀ x ∈ s.behaviors, submitted x fields = .ok (settingFor x.id) :=
    fun x hx => submitted_shown hx
  obtain ⟨s', hsave, hbackend, hstored, hother, -⟩ :=
    saveAll_on (.inr up) entityType bundle settingFor
    fun x (hx : x ∈ s.behaviors) => hx
  exact ⟨s', (submit_of_submitted hsubmitted).trans hsave, hbackend, hstored, hother⟩

/-- A form that is sent back as it was shown keeps the switch of every behavior, and touches no
other setting. It keeps the wordings that it shows and empties all others: those of behaviors that
are no widgets, and all of them where wordings of behaviors do not count. So it changes no setting
exactly if every wording that it does not show is empty. -/
theorem sent_back_form_keeps_shown (up : s.Up .configSet) {form : List FormElement}
    (hform : ((Behaviors.form entityType bundle wordingType).on s).1 = .ok form) :
    ∃ s', (submit entityType bundle (shownValues form)).on s = (.ok (), s') ∧
      (∀ x ∈ s.behaviors, ∃ before,
        ((setting x.id entityType bundle).on s).1 = .ok before ∧
        ((setting x.id entityType bundle).on s').1 = .ok (some
          { status := (before.getD {}).status
            wording := if showsWording s.behaviors wordingType x.id then (before.getD {}).wording
              else "" })) ∧
      (∀ key, (∀ x ∈ s.behaviors, key ≠ Behavior.settingKey x.id entityType bundle) →
        s'.blobs.get? key = s.blobs.get? key) ∧
      ((∀ x ∈ s.behaviors, settingOf s' x.id entityType bundle =
        settingOf s x.id entityType bundle) ↔
        ∀ x ∈ s.behaviors, (settingOf s x.id entityType bundle).wording = "" ∨
          showsWording s.behaviors wordingType x.id = true) := by
  have hshown : ((formOf entityType bundle wordingType s.behaviors).on s).1 = .ok form := by
    rwa [Behaviors.form, Step.on_bind_ok (Step.on_get s)] at hform
  obtain ⟨-, rfl, hread⟩ := of_formOf hshown
  obtain ⟨s', hsubmit, hbackend, hstored, hother⟩ := submit_shown up entityType bundle wordingType
  refine ⟨s', hsubmit, fun x hx => ?_, hother, forall₂_congr fun x hx => ?_⟩
  · obtain ⟨before, hbefore⟩ := hread x hx
    obtain ⟨hget, -, hstands⟩ := of_setting hbefore
    have hgetAfter : s'.Up .configGet := by rwa [Service.Up, hbackend]
    refine ⟨before, hbefore, ?_⟩
    rw [setting_on hgetAfter (hstored x hx), hstands]
    rfl
  · have hafter : settingOf s' x.id entityType bundle =
        sentBack s.behaviors wordingType x.id (settingOf s x.id entityType bundle) := by
      simp [settingOf, hstored x hx, BehaviorSetting.ofJson?_toJson]
    rw [hafter, sentBack, BehaviorSetting.mk.injEq]
    by_cases hshows : showsWording s.behaviors wordingType x.id = true <;> simp [hshows]

theorem sent_back_form_keeps_shown_entity :
    selecting.Up .configSet ∧ ∃ elements,
      ((form "node" "article" .entity).on selecting).1 = .ok elements ∧
      ∃ s', (submit "node" "article" (shownValues elements)).on selecting = (.ok (), s') ∧
        ∀ x ∈ selecting.behaviors,
          settingOf s' x.id "node" "article" = settingOf selecting x.id "node" "article" := by
  have up : selecting.Up .configSet := rfl
  have hshown : ((form "node" "article" .entity).on selecting).1.toOption.isSome := by
    decide +kernel
  cases hform : ((form "node" "article" .entity).on selecting).1 with
  | error e =>
    rw [hform] at hshown
    cases hshown
  | ok elements =>
    obtain ⟨s', hsubmit, -, -, hkept⟩ := sent_back_form_keeps_shown up hform
    exact ⟨up, elements, rfl, s', hsubmit, hkept.2 (by decide +kernel)⟩

/-- The form for articles where wordings of behaviors do not count. -/
def switches : List FormElement :=
  [FormElement.checkbox "autocomplete.status" "Autocomplete service" false,
    FormElement.checkbox "select.status" "Select service" true,
    FormElement.checkbox "search.status" "Search service" false]

/-- Sending it back empties the wording that is stored. -/
theorem hidden_wording_emptied :
    ((setting "select" "node" "article").on selecting).1 = .ok (some ⟨true, "@synonym!"⟩) ∧
    ((form "node" "article" .none).on selecting).1 = .ok switches ∧
    ∃ s', (submit "node" "article" (shownValues switches)).on selecting = (.ok (), s') ∧
      ((setting "select" "node" "article").on s').1 = .ok (some ⟨true, ""⟩) := by
  refine ⟨by decide +kernel, rfl, _, Step.on_eq_of_fst ?_, ?_⟩
  · decide +kernel
  · decide +kernel

end Behaviors
end SynonymLookup
