import SynonymLookup.Proofs.Configuration.Laws

/-! Configurations under other keys than their own. A delete and a submitted form read under the id
that they are asked for, and write under the id that they read there. They act on the id that they
are asked for exactly if the two are the same, or if nothing is written at all. -/

namespace SynonymLookup
namespace Repository

open Service

variable {s t : Service} {c before : Configuration} {id : String}

theorem delete_eq_true (h : (delete id).on s = (.ok true, t)) :
    ∃ c, (load id).on s = (.ok (some c), s) ∧ t = s.remove c := by
  unfold delete at h
  obtain ⟨found, u, hload, hrest⟩ := Step.exists_of_on_bind h
  cases found with
  | none => cases hrest
  | some c =>
    obtain ⟨-, -, rfl⟩ := load_eq_some_iff.1 hload
    refine ⟨c, hload, ?_⟩
    rcases deleteBlob_on c.key u with herase | ⟨e, herase⟩
    · rw [Step.on_bind_ok herase, Step.on_bind_ok (invalidateFor_on c _)] at hrest
      cases hrest
      rfl
    · rw [Step.on_bind_error herase] at hrest
      cases hrest

theorem load_of_require (h : (require id).on s = (.ok c, t)) :
    (load id).on s = (.ok (some c), s) := by
  unfold require at h
  obtain ⟨found, u, hload, hrest⟩ := Step.exists_of_on_bind h
  cases found with
  | none => cases hrest
  | some c' =>
    cases hrest
    obtain ⟨-, -, rfl⟩ := load_eq_some_iff.1 hload
    exact hload

theorem submit_eq_ok (keeps : s.registry.KeepsSettings) {values : Json}
    (h : (submit id values).on s = (.ok c, t)) :
    ∃ before, (load id).on s = (.ok (some before), s) ∧ c = before.withForm values ∧
      t = s.put c := by
  obtain ⟨found, u, hrequire, -⟩ := Step.exists_of_on_bind h
  have hload := load_of_require hrequire
  rcases submit_on id values s with ⟨e, hs⟩ | ⟨before, p, hbefore, hp, hs⟩
  · rw [hs] at h
    cases h
  · have hsame : found = before :=
      Option.some.inj ((load_eq_some_iff.1 hload).2.1.symm.trans (holds_iff.1 hbefore))
    have hsettings : p.configuration = before.settings := keeps.create hp
    rw [hs, hsettings] at h
    cases h
    exact ⟨before, hsame ▸ hload, rfl, rfl⟩

theorem sameBut_put_iff {key : String} (hkey : c.key ≠ key) :
    SameBut key s (s.put c) ↔ s.blobs.get? c.key = some c.toJson := by
  constructor
  · intro h
    have hown := h c.key hkey
    rw [put_blobs, KeyMap.get?_insert, if_pos rfl] at hown
    exact hown.symm
  · intro h other _
    rw [put_blobs, KeyMap.get?_insert]
    by_cases hother : c.key = other
    · rw [if_pos hother, ← hother, h]
    · rw [if_neg hother]

/-- A delete does away with the id that it is asked for if what is loaded there names that id. -/
theorem delete_acts_iff (hload : (load id).on s = (.ok (some c), s)) :
    ((load id).on (s.remove c) = (.ok none, s.remove c) ∧
      SameBut (Configuration.keyOf id) s (s.remove c)) ↔ c.id = id := by
  obtain ⟨hup, hfound, -⟩ := load_eq_some_iff.1 hload
  rw [load_eq_none_iff, up_remove]
  by_cases hid : c.id = id
  · subst hid
    have hgone : (s.remove c).blobs.get? (Configuration.keyOf c.id) = none := by
      simp [Configuration.key]
    exact ⟨fun _ => rfl, fun _ => ⟨⟨hup, hgone, rfl⟩, sameBut_remove s c⟩⟩
  · have hkey : c.key ≠ Configuration.keyOf id := fun h => hid (keyOf_inj h)
    have hkept : (s.remove c).blobs.get? (Configuration.keyOf id) ≠ none := by
      rw [remove_blobs, KeyMap.get?_erase, if_neg hkey]
      intro hnone
      rw [Service.configuration?, hnone] at hfound
      cases hfound
    exact ⟨fun h => absurd h.1.2.1 hkept, fun h => absurd h hid⟩

/-- A form is stored under the id that it is submitted for if what is loaded there names that id, or
if what it names is there already. -/
theorem submit_acts_iff {values : Json} (hvalues : values.IsNormal)
    (hload : (load id).on s = (.ok (some before), s)) (hc : c = before.withForm values) :
    ((load id).on (s.put c) = (.ok (some c), s.put c) ∧
      SameBut (Configuration.keyOf id) s (s.put c)) ↔
      before.id = id ∨ (c = before ∧ s.blobs.get? c.key = some c.toJson) := by
  obtain ⟨hup, hfound, -⟩ := load_eq_some_iff.1 hload
  have plain : c.settings.Plain := hc ▸ (plain_of_configuration? hfound).submit hvalues
  have hid : c.id = before.id := hc ▸ rfl
  rw [load_eq_some_iff, up_put, configuration?_put plain, hid]
  by_cases hown : before.id = id
  · subst hown
    have hothers : SameBut (Configuration.keyOf before.id) s (s.put c) := hid ▸ sameBut_put s c
    exact ⟨fun _ => .inl rfl, fun _ => ⟨⟨hup, if_pos rfl, rfl⟩, hothers⟩⟩
  · have hkey : c.key ≠ Configuration.keyOf id := fun h => hown (hid ▸ keyOf_inj h)
    rw [if_neg hown, sameBut_put_iff hkey, hfound]
    simp [hup, hown, eq_comm]

/-- A delete that answers that there was a configuration, and a form that is stored, act on
the id that they were asked for, and on nothing else, exactly if what is loaded there names
that id. A form does also if what it gives is what was there before, and is what the id
that it names holds already. -/
theorem acts_on_id_iff (id : String) (s : Service) :
    (∀ t, (delete id).on s = (.ok true, t) → ∃ c, (load id).on s = (.ok (some c), s) ∧
      (((load id).on t = (.ok none, t) ∧ SameBut (Configuration.keyOf id) s t) ↔ c.id = id)) ∧
    ∀ values t c, s.registry.KeepsSettings → values.IsNormal →
    (submit id values).on s = (.ok c, t) →
      ∃ before, (load id).on s = (.ok (some before), s) ∧
        (((load id).on t = (.ok (some c), t) ∧ SameBut (Configuration.keyOf id) s t) ↔
          before.id = id ∨ (c = before ∧ s.blobs.get? c.key = some c.toJson)) := by
  constructor
  · intro t h
    obtain ⟨c, hload, rfl⟩ := delete_eq_true h
    exact ⟨c, hload, delete_acts_iff hload⟩
  · intro values t c keeps hvalues h
    obtain ⟨before, hload, hc, rfl⟩ := submit_eq_ok keeps h
    exact ⟨before, hload, submit_acts_iff hvalues hload hc⟩

/-- The configuration of one id is stored under the key of another. -/
def misfiled (key id : String) : Service :=
  { aliased "article" with
    blobs := KeyMap.empty.insert (Configuration.keyOf key) (aliasAt id).toJson }

theorem load_misfiled (key id : String) :
    (load key).on (misfiled key id) = (.ok (some (aliasAt id)), misfiled key id) := by
  have plain : (aliasAt id).settings.Plain := ⟨rfl, fun value hvalue => nomatch hvalue⟩
  refine load_eq_some_iff.2 ⟨rfl, ?_, rfl⟩
  rw [Service.configuration?, misfiled, KeyMap.get?_insert, if_pos rfl]
  exact Configuration.ofJson?_toJson_of_plain plain

theorem acts_on_id_iff_filed :
    (∃ t, (delete "alias").on (misfiled "alias" "alias") = (.ok true, t) ∧
      (load "alias").on t = (.ok none, t) ∧
      SameBut (Configuration.keyOf "alias") (misfiled "alias" "alias") t) ∧
    ∃ c t, (submit "alias" reworded).on (misfiled "alias" "alias") = (.ok c, t) ∧
      (load "alias").on t = (.ok (some c), t) ∧
      SameBut (Configuration.keyOf "alias") (misfiled "alias" "alias") t := by
  have hloaded {c : Configuration} (h : (load "alias").on (misfiled "alias" "alias") =
      (.ok (some c), misfiled "alias" "alias")) : c.id = "alias" := by
    rw [load_misfiled] at h
    cases h
    rfl
  have hdelete : (delete "alias").on (misfiled "alias" "alias") = (.ok true, _) :=
    Step.on_eq_of_fst rfl
  have hsubmit : (submit "alias" reworded).on (misfiled "alias" "alias") =
      (.ok ((aliasAt "alias").withForm reworded), _) := Step.on_eq_of_fst rfl
  have normal : reworded.IsNormal := rfl
  obtain ⟨hdeletes, hsubmits⟩ := acts_on_id_iff "alias" (misfiled "alias" "alias")
  obtain ⟨c, hc, hgone⟩ := hdeletes _ hdelete
  obtain ⟨before, hbefore, hstored⟩ := hsubmits _ _ _ Registry.keepsSettings_builtin normal hsubmit
  exact ⟨⟨_, hdelete, hgone.2 (hloaded hc)⟩, _, _, hsubmit, hstored.2 (.inl (hloaded hbefore))⟩

/-- What is asked for stays as it is, and what it names goes or comes up. -/
theorem acts_on_named_id :
    (∃ c t, (delete "alias").on (misfiled "alias" "other") = (.ok true, t) ∧
      ((load "alias").on t).1 = .ok (some c)) ∧
    ∃ c t, (submit "alias" reworded).on (misfiled "alias" "other") = (.ok c, t) ∧
      ((load "alias").on t).1 ≠ .ok (some c) ∧
      ¬ SameBut (Configuration.keyOf "alias") (misfiled "alias" "other") t := by
  have hdelete : (delete "alias").on (misfiled "alias" "other") = (.ok true, _) :=
    Step.on_eq_of_fst rfl
  have hsubmit : (submit "alias" reworded).on (misfiled "alias" "other") =
      (.ok ((aliasAt "other").withForm reworded), _) := Step.on_eq_of_fst rfl
  refine ⟨⟨aliasAt "other", _, hdelete, rfl⟩, _, _, hsubmit, ?_, ?_⟩
  · have hload : ((load "alias").on ((submit "alias" reworded).on (misfiled "alias" "other")).2).1 =
        .ok (some (aliasAt "other")) := rfl
    rw [hload]
    intro h
    have hsame := congrArg (fun c => c.settings.wording) (Option.some.inj (Except.ok.inj h))
    exact absurd hsame (by decide)
  · intro h
    obtain ⟨-, -, -, hput⟩ := submit_eq_ok Registry.keepsSettings_builtin hsubmit
    have hnone : (misfiled "alias" "other").blobs.get? ((aliasAt "other").withForm reworded).key =
        none := by
      rfl
    rw [hput, sameBut_put_iff (by decide), hnone] at h
    cases h

end Repository
end SynonymLookup
