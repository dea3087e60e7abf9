import SynonymLookup.Backend

/-! Steps run from a state: what each way of building a step answers, and what it leaves of the
state. -/

namespace SynonymLookup
namespace Step

variable {σ α β : Type}

def on (step : Step σ α) (s : σ) : Except LookupError α × σ := step.run.run s

theorem on_eq_of_fst {step : Step σ α} {s : σ} {r : Except LookupError α}
    (h : (step.on s).1 = r) : step.on s = (r, (step.on s).2) := Prod.ext h rfl

@[simp] theorem on_pure (a : α) (s : σ) : (pure a : Step σ α).on s = (.ok a, s) := rfl

@[simp] theorem on_throw (e : LookupError) (s : σ) :
    (throw e : Step σ α).on s = (.error e, s) := rfl

@[simp] theorem on_get (s : σ) : (get : Step σ σ).on s = (.ok s, s) := rfl

@[simp] theorem on_set (s t : σ) : (set t : Step σ PUnit).on s = (.ok ⟨⟩, t) := rfl

@[simp] theorem on_ofExcept (r : Except LookupError α) (s : σ) :
    (ofExcept r : Step σ α).on s = (r, s) := by cases r <;> rfl

theorem on_bind (x : Step σ α) (f : α → Step σ β) (s : σ) :
    (x >>= f).on s = match x.on s with
      | (.ok a, t) => (f a).on t
      | (.error e, t) => (.error e, t) := by
  simp only [on, ExceptT.run_bind, StateT.run_bind]
  rcases x.run.run s with ⟨_ | _, t⟩ <;> rfl

theorem on_bind_ok {x : Step σ α} {f : α → Step σ β} {s t : σ} {a : α} (h : x.on s = (.ok a, t)) :
    (x >>= f).on s = (f a).on t := by rw [on_bind, h]

theorem on_bind_error {x : Step σ α} {f : α → Step σ β} {s t : σ} {e : LookupError}
    (h : x.on s = (.error e, t)) : (x >>= f).on s = (.error e, t) := by rw [on_bind, h]

theorem exists_of_on_bind {x : Step σ α} {f : α → Step σ β} {s t : σ} {b : β}
    (h : (x >>= f).on s = (.ok b, t)) : ∃ a u, x.on s = (.ok a, u) ∧ (f a).on u = (.ok b, t) := by
  rw [on_bind] at h
  rcases hx : x.on s with ⟨_ | a, u⟩
  · rw [hx] at h
    cases h
  · rw [hx] at h
    exact ⟨a, u, rfl, h⟩

theorem on_tryCatch (x : Step σ α) (f : LookupError → Step σ α) (s : σ) :
    (tryCatch x f).on s = match x.on s with
      | (.ok a, t) => (.ok a, t)
      | (.error e, t) => (f e).on t := by
  simp only [on, ExceptT.run_tryCatch, StateT.run_bind]
  rcases x.run.run s with ⟨_ | _, t⟩ <;> rfl

theorem on_read (f : σ → Except StorageError α) (s : σ) :
    (read f).on s = ((f s).mapError .storage, s) := by
  unfold read
  rw [on_bind_ok (on_get s)]
  cases f s <;> rfl

end Step
end SynonymLookup
