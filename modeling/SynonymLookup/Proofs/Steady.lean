import SynonymLookup.Proofs.Configuration.Repository
import SynonymLookup.Wording.Choice

/-! Steps whose answers do not hang on what was asked before. They may count queries and cache
lists, so they leave other states than they found; but these all answer alike, and a chain of such
steps can be read off at its first state. -/

namespace SynonymLookup
namespace Step

variable {σ α β : Type} {P : σ → Prop}

/-- From all states of one kind the step answers the same, and it leaves a state of that kind. -/
structure Steady (P : σ → Prop) (step : Step σ α) : Prop where
  stays : ∀ {s}, P s → P (step.on s).2
  same : ∀ {s s'}, P s → P s' → (step.on s').1 = (step.on s).1

namespace Steady

theorem of_answer {step : Step σ α} (r : Except LookupError α) (h : ∀ s, P s → step.on s = (r, s)) :
    Steady P step where
  stays hs := by rw [h _ hs]; exact hs
  same hs hs' := by rw [h _ hs, h _ hs']

theorem pure (a : α) : Steady P (Pure.pure a : Step σ α) := of_answer (.ok a) fun _ _ => rfl

theorem throw (e : LookupError) : Steady P (MonadExcept.throw e : Step σ α) :=
  of_answer (.error e) fun _ _ => rfl

theorem ofExcept (r : Except LookupError α) : Steady P (MonadExcept.ofExcept r : Step σ α) :=
  of_answer r fun s _ => on_ofExcept r s

theorem ite {c : Prop} [Decidable c] {x y : Step σ α} (hx : Steady P x) (hy : Steady P y) :
    Steady P (if c then x else y) := by
  by_cases hc : c
  · rwa [if_pos hc]
  · rwa [if_neg hc]

theorem read {f : σ → Except StorageError α} (h : ∀ {s s'}, P s → P s' → f s' = f s) :
    Steady P (Step.read f) where
  stays hs := by rw [on_read]; exact hs
  same hs hs' := by rw [on_read, on_read, h hs hs']

theorem get {f : σ → Step σ α} (hsame : ∀ {s s'}, P s → P s' → f s' = f s)
    (h : ∀ {s}, P s → Steady P (f s)) : Steady P (MonadState.get >>= f) where
  stays hs := by
    rw [on_bind_ok (on_get _)]
    exact (h hs).stays hs
  same hs hs' := by
    rw [on_bind_ok (on_get _), on_bind_ok (on_get _), hsame hs hs']
    exact (h hs).same hs hs'

section Bind

variable {x : Step σ α} {f : α → Step σ β}

/-- The rest of a chain need be steady only for what the first step answers. -/
theorem bind_of_answer (hx : Steady P x)
    (hf : ∀ {s a}, P s → (x.on s).1 = .ok a → Steady P (f a)) : Steady P (x >>= f) where
  stays {s} hs := by
    have hstays := hx.stays hs
    rw [on_bind]
    rcases hon : x.on s with ⟨e | a, t⟩
    · rwa [hon] at hstays
    · rw [hon] at hstays
      exact (hf hs (by rw [hon])).stays hstays
  same {s s'} hs hs' := by
    have hsame := hx.same hs hs'
    have hstays := hx.stays hs
    have hstays' := hx.stays hs'
    rw [on_bind, on_bind]
    rcases hon : x.on s with ⟨r, t⟩
    rcases hon' : x.on s' with ⟨r', t'⟩
    simp only [hon, hon'] at hsame hstays hstays'
    subst hsame
    cases r' with
    | error e => rfl
    | ok a => exact (hf hs (by rw [hon])).same hstays hstays'

theorem bind (hx : Steady P x) (hf : ∀ a, Steady P (f a)) : Steady P (x >>= f) :=
  hx.bind_of_answer fun _ _ => hf _

theorem on_bind_fst (hx : Steady P x) {s : σ} (hs : P s) (hf : ∀ a, Steady P (f a)) {a : α}
    (h : (x.on s).1 = .ok a) : ((x >>= f).on s).1 = ((f a).on s).1 := by
  have hstays := hx.stays hs
  rcases hon : x.on s with ⟨r, t⟩
  simp only [hon] at h hstays
  subst h
  rw [on_bind_ok hon]
  exact (hf a).same hs hstays

theorem exists_of_on_bind_fst (hx : Steady P x) {s : σ} (hs : P s)
    (hf : ∀ a, Steady P (f a)) {b : β}
    (h : ((x >>= f).on s).1 = .ok b) : ∃ a, (x.on s).1 = .ok a ∧ ((f a).on s).1 = .ok b := by
  cases hr : (x.on s).1 with
  | error e =>
    rw [on_bind_error (Prod.ext hr rfl)] at h
    cases h
  | ok a =>
    rw [hx.on_bind_fst hs hf hr] at h
    exact ⟨a, rfl, h⟩

theorem on_bind_eq_ok (hx : Steady P x) {s : σ} (hs : P s) (hf : ∀ a, Steady P (f a)) {b : β} :
    ((x >>= f).on s).1 = .ok b ↔ ∃ a, (x.on s).1 = .ok a ∧ ((f a).on s).1 = .ok b := by
  refine ⟨hx.exists_of_on_bind_fst hs hf, ?_⟩
  rintro ⟨a, ha, hb⟩
  rw [hx.on_bind_fst hs hf ha, hb]

theorem tryCatch {handle : LookupError → Step σ α} (hx : Steady P x)
    (hhandle : ∀ e, Steady P (handle e)) : Steady P (MonadExcept.tryCatch x handle) where
  stays {s} hs := by
    have hstays := hx.stays hs
    rw [on_tryCatch]
    rcases hon : x.on s with ⟨e | a, t⟩
    · rw [hon] at hstays
      exact (hhandle e).stays hstays
    · rwa [hon] at hstays
  same {s s'} hs hs' := by
    have hsame := hx.same hs hs'
    have hstays := hx.stays hs
    have hstays' := hx.stays hs'
    rw [on_tryCatch, on_tryCatch]
    rcases hon : x.on s with ⟨r, t⟩
    rcases hon' : x.on s' with ⟨r', t'⟩
    simp only [hon, hon'] at hsame hstays hstays'
    subst hsame
    cases r' with
    | error e => exact (hhandle e).same hstays hstays'
    | ok a => rfl

end Bind

end Steady
end Step

namespace Service

open Step Repository

section Settings

variable {P : Service → Prop}

/-- All states of the kind have the same settings, and the same accesses are in service. -/
def SameSettings (P : Service → Prop) : Prop :=
  ∀ {s s'}, P s → P s' → s'.blobs = s.blobs ∧ s'.backend.outages = s.backend.outages

theorem SameSettings.allow (h : SameSettings P) (a : Access) : Steady P (allow a) :=
  .read fun hs hs' => by simp only [(h hs hs').2]

theorem SameSettings.getBlob (h : SameSettings P) (key : String) : Steady P (getBlob key) :=
  (h.allow .configGet).bind fun _ =>
    .get (fun hs hs' => by rw [(h hs hs').1]) fun _ => .pure _

theorem SameSettings.listKeys (h : SameSettings P) (head : String) : Steady P (listKeys head) :=
  (h.allow .configList).bind fun _ =>
    .get (fun hs hs' => by rw [(h hs hs').1]) fun _ => .pure _

theorem SameSettings.getProperty (h : SameSettings P) (key property : String) :
    Steady P (getProperty key property) := (h.getBlob key).bind fun _ => .pure _

theorem SameSettings.getStored {α : Type} [Stored α] (h : SameSettings P) (key : String) :
    Steady P (getStored α key) := by
  refine (h.getBlob key).bind fun found => ?_
  cases found with
  | none => exact .pure none
  | some j =>
    cases hread : (JsonForm.ofJson? j : Option α) with
    | none => simpa only [hread] using Steady.throw _
    | some a => simpa only [hread] using Steady.pure (some a)

theorem SameSettings.loadKeys (h : SameSettings P) (keys : List String) :
    Steady P (loadKeys keys) := by
  induction keys with
  | nil => exact .pure []
  | cons key rest ih =>
    exact (h.getStored key).bind fun _ => ih.bind fun _ => .pure _

theorem SameSettings.loadAll (h : SameSettings P) : Steady P loadAll :=
  (h.listKeys _).bind h.loadKeys

theorem SameSettings.setting (h : SameSettings P) (id entityType bundle : String) :
    Steady P (Behaviors.setting id entityType bundle) := h.getStored _

theorem SameSettings.defaults (h : SameSettings P) (id : String) :
    Steady P (Behaviors.defaults id) := (h.getStored _).bind fun _ => .pure _

theorem SameSettings.behaviorWording (h : SameSettings P) (c : Configuration) (behavior : String) :
    Steady P (Wording.behaviorWording c behavior) := by
  unfold Wording.behaviorWording
  cases c.pluginId? with
  | none => exact .pure ""
  | some p => exact (h.setting _ _ _).bind fun _ => .pure _

theorem SameSettings.template (h : SameSettings P) (c : Configuration) (behavior : String)
    (wordingType : WordingType) : Steady P (Wording.template c behavior wordingType) := by
  have rest (forBundle : String) : Steady P (if !forBundle.isEmpty then pure forBundle else do
      let general := (← Behaviors.defaults behavior).wording
      if !general.isEmpty then pure general else pure Wording.fallback) :=
    .ite (.pure _) ((h.defaults behavior).bind fun _ => .ite (.pure _) (.pure _))
  unfold Wording.template
  exact .ite (.pure _) (.ite (.pure _)
    (.ite ((h.behaviorWording c behavior).bind rest) ((Steady.pure "").bind rest)))

theorem SameSettings.wordingSettings (h : SameSettings P) : Steady P Wording.settings :=
  (h.getStored _).bind fun _ => .pure _

theorem SameSettings.isEnabled (h : SameSettings P) (id entityType bundle : String) :
    Steady P (Behaviors.isEnabled id entityType bundle) :=
  (h.getProperty _ _).bind fun _ => .pure _

end Settings

end Service
end SynonymLookup
