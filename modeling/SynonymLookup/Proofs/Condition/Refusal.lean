import SynonymLookup.Proofs.Condition.Meaning

/-! Trees with leaves that may be refused. Replacing the columns ends at the first one, depth first,
that has no replacement. Evaluating goes from left to right and ends at the first leaf that is
refused, but it does not come to every leaf. -/

namespace SynonymLookup

def errorOf? {ε α : Type} : Except ε α → Option ε
  | .ok _ => none
  | .error e => some e

theorem errorOf?_eq_some {ε α : Type} {x : Except ε α} {e : ε} :
    errorOf? x = some e ↔ x = .error e := by cases x <;> simp [errorOf?]

theorem errorOf?_eq_none {ε α : Type} {x : Except ε α} :
    errorOf? x = none ↔ ∃ a, x = .ok a := by cases x <;> simp [errorOf?]

namespace ConditionOf

variable {γ δ ε : Type}

theorem traverseAll_errorOf? {f : γ → Except ε δ} {l : List (ConditionOf γ)}
    (h : ∀ c ∈ l, errorOf? (c.traverse f) = c.columns.findSome? fun x => errorOf? (f x)) :
    errorOf? (traverseAll f l) = (l.flatMap columns).findSome? fun x => errorOf? (f x) := by
  induction l with
  | nil => rfl
  | cons c rest ih =>
    have ih := ih fun d hd => h d (List.mem_cons_of_mem _ hd)
    rw [List.flatMap_cons, List.findSome?_append, ← h c List.mem_cons_self, ← ih, traverseAll]
    cases c.traverse f with
    | error e => rfl
    | ok d => cases traverseAll f rest <;> rfl

/-- Replacing the columns fails for the first one, depth first, that has no replacement. -/
theorem traverse_errorOf? (f : γ → Except ε δ) (c : ConditionOf γ) :
    errorOf? (c.traverse f) = c.columns.findSome? fun x => errorOf? (f x) := by
  induction c using byChildren with
  | leaf c =>
    rw [traverse, columns_leaf]
    cases h : f c.column <;> simp [h, errorOf?]
  | and children ih =>
    rw [traverse, columns_and, ← traverseAll_errorOf? ih]
    cases traverseAll f children <;> rfl
  | or children ih =>
    rw [traverse, columns_or, ← traverseAll_errorOf? ih]
    cases traverseAll f children <;> rfl

/-- Evaluates children one after the other for as long as each comes to `going`. -/
def runThrough (test : ComparisonOf γ → Except ε Bool) (going : Bool) :
    List (ConditionOf γ) → Except ε Bool
  | [] => return going
  | c :: rest => do
    if (← c.holds test) = going then runThrough test going rest else return !going

theorem allHold_eq_runThrough (test : ComparisonOf γ → Except ε Bool) (l : List (ConditionOf γ)) :
    allHold test l = runThrough test true l := by
  induction l with
  | nil => rw [allHold, runThrough]
  | cons c rest ih =>
    rw [allHold, runThrough, ih]
    cases c.holds test <;> rfl

theorem anyHolds_eq_runThrough (test : ComparisonOf γ → Except ε Bool) (l : List (ConditionOf γ)) :
    anyHolds test l = runThrough test false l := by
  induction l with
  | nil => rw [anyHolds, runThrough]
  | cons c rest ih =>
    rw [anyHolds, runThrough, ih]
    cases c.holds test with
    | error e => rfl
    | ok verdict => cases verdict <;> rfl

theorem holds_and (test : ComparisonOf γ → Except ε Bool) (children : List (ConditionOf γ)) :
    (ConditionOf.and children).holds test = runThrough test true children := by
  rw [holds, allHold_eq_runThrough]

theorem holds_or (test : ComparisonOf γ → Except ε Bool) (children : List (ConditionOf γ)) :
    (ConditionOf.or children).holds test = runThrough test false children := by
  rw [holds, anyHolds_eq_runThrough]

theorem runThrough_map {f : γ → δ} {test : ComparisonOf δ → Except ε Bool}
    {test' : ComparisonOf γ → Except ε Bool} (going : Bool) {l : List (ConditionOf γ)}
    (h : ∀ c ∈ l, (c.map f).holds test = c.holds test') :
    runThrough test going (l.map (map f)) = runThrough test' going l := by
  induction l with
  | nil => rfl
  | cons c rest ih =>
    rw [List.map_cons, runThrough, runThrough, h c List.mem_cons_self,
      ih fun d hd => h d (List.mem_cons_of_mem _ hd)]

theorem holds_map {f : γ → δ} {test : ComparisonOf δ → Except ε Bool}
    {test' : ComparisonOf γ → Except ε Bool} {c : ConditionOf γ}
    (h : ∀ l ∈ c.leaves, test { l with column := f l.column } = test' l) :
    (c.map f).holds test = c.holds test' := by
  induction c using byChildren with
  | leaf c =>
    rw [map_leaf, holds, holds]
    exact h c (by simp)
  | and children ih =>
    rw [leaves_and] at h
    rw [map_and, holds_and, holds_and]
    exact runThrough_map true fun c hc => ih c hc fun l hl => h l (List.mem_flatMap.2 ⟨c, hc, hl⟩)
  | or children ih =>
    rw [leaves_or] at h
    rw [map_or, holds_or, holds_or]
    exact runThrough_map false fun c hc => ih c hc fun l hl => h l (List.mem_flatMap.2 ⟨c, hc, hl⟩)

theorem runThrough_append {test : ComparisonOf γ → Except ε Bool} {going : Bool}
    {before : List (ConditionOf γ)} (h : ∀ d ∈ before, d.holds test = .ok going)
    (rest : List (ConditionOf γ)) :
    runThrough test going (before ++ rest) = runThrough test going rest := by
  induction before with
  | nil => rfl
  | cons d before ih =>
    have ih := ih fun c hc => h c (List.mem_cons_of_mem _ hc)
    rw [List.cons_append, runThrough, h d List.mem_cons_self, ← ih]
    exact if_pos rfl

theorem runThrough_eq_error_iff {test : ComparisonOf γ → Except ε Bool} {going : Bool} {reason : ε}
    {l : List (ConditionOf γ)} :
    runThrough test going l = .error reason ↔ ∃ before c after, l = before ++ c :: after ∧
      (∀ d ∈ before, d.holds test = .ok going) ∧ c.holds test = .error reason := by
  constructor
  · intro h
    induction l with
    | nil => cases h
    | cons c rest ih =>
      rw [runThrough] at h
      cases hc : c.holds test with
      | error e =>
        rw [hc] at h
        cases h
        exact ⟨[], c, rest, rfl, fun d hd => absurd hd List.not_mem_nil, hc⟩
      | ok verdict =>
        rw [hc] at h
        replace h : (if verdict = going then runThrough test going rest else return !going) =
          .error reason := h
        by_cases hgoing : verdict = going
        · rw [if_pos hgoing] at h
          obtain ⟨before, d, after, rfl, hbefore, hd⟩ := ih h
          refine ⟨c :: before, d, after, rfl, fun x hx => ?_, hd⟩
          rcases List.mem_cons.1 hx with rfl | hx
          · rw [hc, hgoing]
          · exact hbefore x hx
        · rw [if_neg hgoing] at h
          cases h
  · rintro ⟨before, c, after, rfl, hbefore, hc⟩
    rw [runThrough_append hbefore, runThrough, hc]
    rfl

theorem holds_of_runThrough {test : ComparisonOf γ → Except ε Bool} {going : Bool}
    {l : List (ConditionOf γ)} (h : runThrough test going l = .ok going) :
    ∀ c ∈ l, c.holds test = .ok going := by
  induction l with
  | nil => exact fun c hc => absurd hc List.not_mem_nil
  | cons c rest ih =>
    rw [runThrough] at h
    cases hc : c.holds test with
    | error e =>
      rw [hc] at h
      cases h
    | ok verdict =>
      rw [hc] at h
      replace h : (if verdict = going then runThrough test going rest else return !going) =
        .ok going := h
      by_cases hgoing : verdict = going
      · rw [if_pos hgoing] at h
        intro d hd
        rcases List.mem_cons.1 hd with rfl | hd
        · rw [hc, hgoing]
        · exact ih h d hd
      · rw [if_neg hgoing] at h
        cases going <;> cases h

/-- Evaluation from left to right comes to a leaf that is refused for the reason: in a conjunction
all children before it held, in a disjunction none did. -/
inductive Exposes (test : ComparisonOf γ → Except ε Bool) (reason : ε) : ConditionOf γ → Prop
  | leaf {c : ComparisonOf γ} : test c = .error reason → Exposes test reason (.leaf c)
  | and {before after : List (ConditionOf γ)} {c : ConditionOf γ} :
      (∀ d ∈ before, d.holds test = .ok true) → Exposes test reason c →
        Exposes test reason (.and (before ++ c :: after))
  | or {before after : List (ConditionOf γ)} {c : ConditionOf γ} :
      (∀ d ∈ before, d.holds test = .ok false) → Exposes test reason c →
        Exposes test reason (.or (before ++ c :: after))

/-- A tree is refused exactly if its evaluation comes to a leaf that is. -/
theorem holds_eq_error_iff {test : ComparisonOf γ → Except ε Bool} {reason : ε}
    {c : ConditionOf γ} : c.holds test = .error reason ↔ c.Exposes test reason := by
  constructor
  · induction c using byChildren with
    | leaf c =>
      rw [holds]
      exact .leaf
    | and children ih =>
      rw [holds_and, runThrough_eq_error_iff]
      rintro ⟨before, c, after, rfl, hbefore, hc⟩
      exact .and hbefore (ih c (by simp) hc)
    | or children ih =>
      rw [holds_or, runThrough_eq_error_iff]
      rintro ⟨before, c, after, rfl, hbefore, hc⟩
      exact .or hbefore (ih c (by simp) hc)
  · intro h
    induction h with
    | leaf h => rwa [holds]
    | and hbefore _ ih =>
      rw [holds_and]
      exact runThrough_eq_error_iff.2 ⟨_, _, _, rfl, hbefore, ih⟩
    | or hbefore _ ih =>
      rw [holds_or]
      exact runThrough_eq_error_iff.2 ⟨_, _, _, rfl, hbefore, ih⟩

theorem Exposes.exists_leaf {test : ComparisonOf γ → Except ε Bool} {reason : ε} {c : ConditionOf γ}
    (h : c.Exposes test reason) : ∃ l ∈ c.leaves, test l = .error reason := by
  induction h with
  | leaf h => exact ⟨_, by simp, h⟩
  | and _ _ ih =>
    obtain ⟨l, hl, h⟩ := ih
    exact ⟨l, by simp [hl], h⟩
  | or _ _ ih =>
    obtain ⟨l, hl, h⟩ := ih
    exact ⟨l, by simp [hl], h⟩

end ConditionOf
end SynonymLookup
