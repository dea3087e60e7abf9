import SynonymLookup.Proofs.Configuration.Repository
import SynonymLookup.Proofs.Wording.Parts
import SynonymLookup.Wording.Choice

/-! The wording in which a synonym is shown. Of the wordings that count under the stored type the
first one that is not empty is the template, and the synonym stands alone if there is none. What
comes after that wording is not read, so it may be in disorder. -/

namespace SynonymLookup

namespace Step

variable {σ α β : Type} {s : σ}

/-- The step leaves the state as it is; it answers the value, or fails for want of one. -/
def Yields (step : Step σ α) (s : σ) (value : Option α) : Prop :=
  (step.on s).1.toOption = value ∧ (step.on s).2 = s

namespace Yields

variable {value : Option α}

theorem pure (a : α) (s : σ) : Yields (Pure.pure a : Step σ α) s (some a) := ⟨rfl, rfl⟩

theorem bind {x : Step σ α} {f : α → Step σ β} {made : α → Option β} (hx : Yields x s value)
    (hf : ∀ a, Yields (f a) s (made a)) : Yields (x >>= f) s (value.bind made) := by
  obtain ⟨rfl, hstate⟩ := hx
  rcases hon : x.on s with ⟨e | a, t⟩
  · obtain rfl : t = s := by rwa [hon] at hstate
    rw [Yields, on_bind_error hon]
    exact ⟨rfl, rfl⟩
  · obtain rfl : t = s := by rwa [hon] at hstate
    rw [Yields, on_bind_ok hon]
    exact hf a

theorem ite {c : Prop} [Decidable c] {x y : Step σ α} {value' : Option α} (hx : Yields x s value)
    (hy : Yields y s value') : Yields (if c then x else y) s (if c then value else value') := by
  by_cases hc : c
  · rwa [if_pos hc, if_pos hc]
  · rwa [if_neg hc, if_neg hc]

theorem fst_eq_ok_iff {step : Step σ α} (h : Yields step s value) {a : α} :
    (step.on s).1 = .ok a ↔ value = some a := by
  obtain ⟨rfl, -⟩ := h
  cases (step.on s).1 <;> simp [Except.toOption]

theorem on_eq_ok {step : Step σ α} {a : α} (h : Yields step s (some a)) : step.on s = (.ok a, s) :=
  Prod.ext (h.fst_eq_ok_iff.2 rfl) h.2

end Yields
end Step

namespace Service

/-- The value under a key, if any; `none` where the blob is of another form. -/
def read? (α : Type) [Stored α] (s : Service) (key : String) : Option (Option α) :=
  match s.blobs.get? key with
  | none => some none
  | some j => (JsonForm.ofJson? j).map some

theorem getStored_yields {α : Type} [Stored α] {s : Service} (up : s.Up .configGet) (key : String) :
    (getStored α key).Yields s (s.read? α key) := by
  unfold getStored read?
  rw [Step.Yields, Step.on_bind_ok (Repository.getBlob_of_up up key)]
  cases s.blobs.get? key with
  | none => exact ⟨rfl, rfl⟩
  | some j =>
    cases hread : (JsonForm.ofJson? j : Option α) with
    | none => simp only [hread]; exact ⟨rfl, rfl⟩
    | some a => simp only [hread]; exact ⟨rfl, rfl⟩

end Service

namespace Wording

open Service Step

variable {s : Service} {c : Configuration} {p : PluginId} {behavior : String} {t : WordingType}

def storedType (s : Service) : Option WordingType :=
  (s.read? ModuleSettings ModuleSettings.key).map fun found => (found.getD {}).wordingType

def bundleWording (s : Service) (behavior entityType bundle : String) : Option String :=
  (s.read? BehaviorSetting (Behavior.settingKey behavior entityType bundle)).map fun found =>
    (found.map (·.wording)).getD ""

def generalWording (s : Service) (behavior : String) : Option String :=
  (s.read? BehaviorDefaults (Behavior.defaultsKey behavior)).map fun found =>
    (found.getD {}).wording

/-- The wordings that count for a configuration under a wording type, the most specific one first;
those that cannot be read are `none`. -/
def wordings (s : Service) (c : Configuration) (p : PluginId) (behavior : String) :
    WordingType → List (Option String)
  | .none => []
  | .default => [generalWording s behavior]
  | .entity => [bundleWording s behavior p.entityType p.bundle, generalWording s behavior]
  | .provider => [some c.settings.wording, bundleWording s behavior p.entityType p.bundle,
      generalWording s behavior]

/-- What the tokens stand for: the label of the field that a plugin id names, its name if the field
has gone, and the label of the bundle. -/
def valuesFor (s : Schema) (p : PluginId) (synonym : String) (e : Entity) : Values where
  synonym := synonym
  entityLabel := e.labelText
  fieldLabel := ((s.field? p.entityType p.bundle p.field).map (·.label)).getD p.field
  bundleLabel := s.bundleLabel p.entityType p.bundle

/-- The first wording that is not empty. It is not found behind one that cannot be read. -/
def firstWording : List (Option String) → Option String
  | [] => some fallback
  | wording :: rest => wording.bind fun w => if w.isEmpty then firstWording rest else some w

theorem firstWording_eq_some_iff {list : List (Option String)} {template : String} :
    firstWording list = some template ↔
      (list ++ [some fallback]).find? (· ≠ some "") = some (some template) := by
  induction list with
  | nil => simp [firstWording, fallback]
  | cons wording rest ih =>
    cases wording with
    | none => simp [firstWording]
    | some w =>
      by_cases hw : w = ""
      · simpa [firstWording, hw] using ih
      · simp [firstWording, hw]

theorem firstWording_of_empty {list : List (Option String)} (h : ∀ w ∈ list, w = some "") :
    firstWording list = some fallback := by
  induction list with
  | nil => rfl
  | cons wording rest ih =>
    obtain rfl := h wording List.mem_cons_self
    simpa [firstWording] using ih fun w hw => h w (List.mem_cons_of_mem _ hw)

section Chain

theorem settings_yields (up : s.Up .configGet) : settings.Yields s
    ((s.read? ModuleSettings ModuleSettings.key).map (·.getD {})) := by
  rw [Option.map_eq_bind]
  exact (getStored_yields up _).bind fun _ => .pure _ s

theorem defaults_yields (up : s.Up .configGet) (behavior : String) :
    (Behaviors.defaults behavior).Yields s
    ((s.read? BehaviorDefaults (Behavior.defaultsKey behavior)).map (·.getD {})) := by
  rw [Option.map_eq_bind]
  exact (getStored_yields up _).bind fun _ => .pure _ s

theorem behaviorWording_yields (up : s.Up .configGet) (hp : c.pluginId? = some p)
    (behavior : String) :
    (behaviorWording c behavior).Yields s (bundleWording s behavior p.entityType p.bundle) := by
  rw [behaviorWording, hp, bundleWording, Option.map_eq_bind]
  exact (getStored_yields up _).bind fun _ => .pure _ s

/-- A wording at hand comes before the rest of the chain. -/
theorem yields_unless_empty {rest : Action String} {list : List (Option String)}
    (h : rest.Yields s (firstWording list)) (w : String) :
    (if !w.isEmpty then pure w else rest : Action String).Yields s
      (firstWording (some w :: list)) := by
  have hchoice : firstWording (some w :: list) =
      if !w.isEmpty then some w else firstWording list := by
    cases hw : w.isEmpty <;> simp only [firstWording, Option.bind_some, hw] <;> rfl
  rw [hchoice]
  exact (Yields.pure w s).ite h

/-- So does one that is read first. -/
theorem yields_unless_read {α : Type} {read : Action α} {found : Option α} {rest : Action String}
    {list : List (Option String)} (hread : read.Yields s found)
    (h : rest.Yields s (firstWording list)) (wordingOf : α → String) :
    (do
      let a ← read
      if !(wordingOf a).isEmpty then pure (wordingOf a) else rest : Action String).Yields s
      (firstWording (found.map wordingOf :: list)) := by
  have hfirst : firstWording (found.map wordingOf :: list) =
      found.bind fun a => firstWording (some (wordingOf a) :: list) := by
    cases found <;> rfl
  rw [hfirst]
  exact hread.bind fun a => yields_unless_empty h (wordingOf a)

theorem template_yields (up : s.Up .configGet) (hp : c.pluginId? = some p) (behavior : String)
    (ht : t ≠ .none) : (template c behavior t).Yields s
      (firstWording (wordings s c p behavior t)) := by
  have hend : (pure fallback : Action String).Yields s (firstWording []) := .pure fallback s
  have hgeneral := yields_unless_read (defaults_yields up behavior) hend (·.wording)
  rw [Option.map_map] at hgeneral
  have hbundle := yields_unless_read (behaviorWording_yields up hp behavior) hgeneral id
  rw [Option.map_id] at hbundle
  unfold template
  rw [if_neg ht]
  cases t with
  | none => exact absurd rfl ht
  | default => exact hgeneral
  | entity => exact hbundle
  | provider => exact yields_unless_empty hbundle c.settings.wording

/-- What is shown for a wording type: the synonym as it is, or the template with the
values put in. -/
theorem present_yields (up : s.Up .configGet) (hp : c.pluginId? = some p)
    (synonym : String) (e : Entity)
    (behavior : String) : (present synonym e c behavior).Yields s ((storedType s).bind fun t =>
      if t = .none then some synonym
      else (firstWording (wordings s c p behavior t)).map fun template =>
        render template (valuesFor s.schema p synonym e)) := by
  have hlabels : boundLabels c e s.schema =
      ((valuesFor s.schema p synonym e).fieldLabel,
        (valuesFor s.schema p synonym e).bundleLabel) := by
    simp only [boundLabels, hp, valuesFor]
  have htype : storedType s =
      ((s.read? ModuleSettings ModuleSettings.key).map (·.getD {})).map (·.wordingType) :=
    (Option.map_map ..).symm
  rw [htype, Option.bind_map]
  refine (settings_yields up).bind fun settings => ?_
  by_cases ht : settings.wordingType = .none
  · simp only [ht, Function.comp_apply, if_true]
    exact .pure synonym s
  · simp only [ht, Function.comp_apply, if_false, Option.map_eq_bind]
    refine (template_yields up hp behavior ht).bind fun template => ?_
    rw [Yields, on_bind_ok (on_get s), hlabels]
    exact ⟨rfl, rfl⟩

end Chain

/-- A synonym is shown as it is where the wording type is `none` or no settings are stored, whatever
the wordings are. Otherwise it is shown in the first template that is not empty among the
configuration's own wording (for the most specific type), the wording of the behavior for the
configuration's bundle (for the two most specific types), the default wording of the behavior and
the synonym alone; there is an answer exactly if everything that comes before this template can be
read. Where all these wordings are empty the synonym is shown as it is. -/
theorem present_first_wording (up : s.Up .configGet) (hp : c.pluginId? = some p) (synonym : String)
    (e : Entity) (behavior : String) :
    (storedType s = some .none → (present synonym e c behavior).on s = (.ok synonym, s)) ∧
    (∀ text, ((present synonym e c behavior).on s).1 = .ok text ↔ ∃ t, storedType s = some t ∧
      if t = .none then text = synonym
      else ∃ template,
        (wordings s c p behavior t ++ [some fallback]).find? (· ≠ some "") = some (some template) ∧
        text = render template (valuesFor s.schema p synonym e)) ∧
    ∀ t, storedType s = some t → (∀ w ∈ wordings s c p behavior t, w = some "") →
      (present synonym e c behavior).on s = (.ok synonym, s) := by
  have hyields := present_yields up hp synonym e behavior
  refine ⟨fun htype => ?_, fun text => ?_, fun t htype hempty => ?_⟩
  · rw [htype] at hyields
    exact hyields.on_eq_ok
  · rw [hyields.fst_eq_ok_iff, Option.bind_eq_some_iff]
    refine exists_congr fun t => and_congr_right fun _ => ?_
    by_cases ht : t = .none
    · simp only [if_pos ht, Option.some.injEq, eq_comm]
    · rw [if_neg ht, if_neg ht, Option.map_eq_some_iff]
      exact exists_congr fun template => and_congr firstWording_eq_some_iff eq_comm
  · have hshown : (if t = .none then some synonym
        else some (valuesFor s.schema p synonym e).synonym) = some synonym := ite_self _
    rw [htype, Option.bind_some, firstWording_of_empty hempty, Option.map_some, render_fallback,
      hshown] at hyields
    exact hyields.on_eq_ok

def aliasConfiguration : Configuration := { id := "alias", plugin := "field:node.article.alias" }

def aliasService : Service :=
  let node : EntityType := { id := "node", keys := { bundle := some "type" } }
  let field : Field := { name := "alias", label := "Alias", fieldType := "string" }
  let schema := ((({} : Schema).insertEntityType node).insertBundle "node"
    ⟨"article", "Article"⟩).insertField "node" "article" field
  let setting : BehaviorSetting := ⟨true, "@synonym (@field_label of @entity_label, @BUNDLE)"⟩
  { backend := { store := { schema } }
    blobs := ((KeyMap.empty.insert ModuleSettings.key (ModuleSettings.toJson ⟨.provider⟩)).insert
      (Behavior.settingKey "select" "node" "article") setting.toJson).insert
      (Behavior.defaultsKey "select") .null }

theorem present_first_wording_alias :
    aliasService.Up .configGet ∧
    aliasConfiguration.pluginId? = some ⟨"field", "node", "article", "alias"⟩ ∧
    ((present "Reynard"
      { entityType := "node", bundle := "article", id := ⟨"1"⟩, label := some "Fox" }
      aliasConfiguration "select").on aliasService).1 = .ok "Reynard (alias of Fox, ARTICLE)" := by
  have up : aliasService.Up .configGet := rfl
  have hp : aliasConfiguration.pluginId? = some ⟨"field", "node", "article", "alias"⟩ := by
    decide +kernel
  refine ⟨up, hp, ((present_first_wording up hp _ _ _).2.1 _).2 ⟨.provider, by decide +kernel, ?_⟩⟩
  rw [if_neg (by decide)]
  exact ⟨"@synonym (@field_label of @entity_label, @BUNDLE)", by decide +kernel, by decide +kernel⟩

end Wording
end SynonymLookup
