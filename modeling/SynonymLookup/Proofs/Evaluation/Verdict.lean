import SynonymLookup.Evaluation

/-! What the test of a leaf comes to: it is refused for a reason, or there is a
verdict on all values together. -/

namespace SynonymLookup

/-- The value is one that the operator compares with: a list for a list operator, a
text for a pattern operator. -/
def Operator.Takes (o : Operator) (right : Json) : Prop :=
  (o.takesList = true → right.items?.isSome = true) ∧
    (o = .like ∨ o = .notLike → right.text?.isSome = true)

/-- The text passes the test, where the right-hand side is one that the test compares with. -/
def Test.admits (test : Test) (right : Json) (left : String) : Bool :=
  match test with
  | .equal => Evaluation.equalsText left right
  | .like => right.text?.any fun pattern => Like.isMatch pattern left
  | .isIn => (right.items?.getD []).any (Evaluation.equalsText left)
  | .less => Evaluation.order left right Ordering.isLT
  | .lessOrEqual => Evaluation.order left right Ordering.isLE
  | .greater => Evaluation.order left right Ordering.isGT
  | .greaterOrEqual => Evaluation.order left right Ordering.isGE

def Test.admitsAny (test : Test) (right : Json) (values : List Json) : Bool :=
  values.any fun v => v.text?.any (test.admits right)

namespace Operator

def takesPattern : Operator → Bool
  | like | notLike => true
  | _ => false

/-- A positive operator holds if some value passes, its negative if there are values and none
passes. -/
def verdict (o : Operator) (values : List Json) (right : Json) : Bool :=
  match o.demand with
  | .allNull => values.all Json.isNull
  | .someNotNull => values.any fun v => !v.isNull
  | .some test => test.admitsAny right values
  | .none test => !values.isEmpty && !test.admitsAny right values

theorem takes_iff {o : Operator} {right : Json} :
    o.Takes right ↔ (o.takesList = true → right.items?.isSome = true) ∧
      (o.takesPattern = true → right.text?.isSome = true) := by
  cases o <;> simp [Takes, takesPattern]

end Operator

namespace Evaluation

/-- Why a leaf is refused: a list operator has no list, or a pattern operator has no pattern
when there is a text to match. -/
def refusal? (o : Operator) (values : List Json) (right : Json) : Option StorageError :=
  if o.takesList && right.items?.isNone then some (listRequired o)
  else if o.takesPattern && right.text?.isNone && values.any (·.text?.isSome) then
    some patternRequired
  else none

theorem passes_eq {test : Test} {right : Json} (h : test = .like → right.text?.isSome = true)
    (left : String) : passes test right left = .ok (test.admits right left) := by
  cases test with
  | like =>
    obtain ⟨pattern, hp⟩ := Option.isSome_iff_exists.1 (h rfl)
    simp only [passes, Test.admits, hp]
    rfl
  | _ => rfl

theorem anyPasses_eq {test : Test} {right : Json} (h : test = .like → right.text?.isSome = true)
    (values : List Json) : anyPasses test right values = .ok (test.admitsAny right values) := by
  induction values with
  | nil => rfl
  | cons v rest ih =>
    cases hv : v.text? with
    | none => simpa [anyPasses, Test.admitsAny, hv] using ih
    | some left =>
      simp only [anyPasses, hv, passes_eq h, ih, Test.admitsAny, List.any_cons, Option.any_some]
      cases test.admits right left <;> rfl

/-- Without a pattern, the first text to match is refused. -/
theorem anyPasses_like {right : Json} (h : right.text? = none) (values : List Json) :
    anyPasses .like right values =
      if values.any (·.text?.isSome) then .error patternRequired else .ok false := by
  induction values with
  | nil => rfl
  | cons v rest ih =>
    cases hv : v.text? with
    | none => simpa [anyPasses, hv] using ih
    | some left =>
      simp only [anyPasses, hv, passes, h, List.any_cons, Option.isSome_some, Bool.true_or]
      rfl

theorem admitsAny_like {right : Json} (h : right.text? = none) (values : List Json) :
    Test.like.admitsAny right values = false := by
  rw [Test.admitsAny, List.any_eq_false]
  intro v _
  cases hv : v.text? with
  | none => simp
  | some left => simp [Test.admits, h]

theorem like_of_demand {o : Operator} {test : Test}
    (h : o.demand = .some test ∨ o.demand = .none test) : test = .like → o.takesPattern = true := by
  rintro rfl
  cases o <;> simp_all [Operator.demand, Operator.takesPattern]

theorem refusal?_of_list {o : Operator} {right : Json}
    (h : (o.takesList && right.items?.isNone) = true) (values : List Json) :
    refusal? o values right = some (listRequired o) := by rw [refusal?, if_pos h]

theorem evaluate_of_list {o : Operator} {right : Json}
    (h : (o.takesList && right.items?.isNone) = true) (values : List Json) :
    evaluate o values right = .error (listRequired o) := by
  cases o with
  | isIn =>
    simp only [evaluate, Operator.demand, h]
    rfl
  | notIn =>
    simp only [evaluate, Operator.demand, h]
    rfl
  | _ => simp [Operator.takesList] at h

theorem evaluate_of_pattern {o : Operator} {right : Json} (ho : o.takesPattern = true)
    (h : right.text? = none) (values : List Json) :
    evaluate o values right = if values.any (·.text?.isSome) then .error patternRequired
      else .ok (o.verdict values right) := by
  have hpasses := anyPasses_like h values
  have hadmits := admitsAny_like h values
  have hlist : (false && right.items?.isNone) = false := rfl
  cases o with
  | like =>
    simp only [evaluate, Operator.demand, Operator.takesList, Operator.verdict, hlist,
      hadmits, hpasses]
    cases values.any (·.text?.isSome) <;> rfl
  | notLike =>
    simp only [evaluate, Operator.demand, Operator.takesList, Operator.verdict, hlist,
      hadmits, hpasses]
    cases values.any (·.text?.isSome) <;> rfl
  | _ => simp [Operator.takesPattern] at ho

theorem evaluate_of_takes {o : Operator} {right : Json} (h : o.Takes right) (values : List Json) :
    evaluate o values right = .ok (o.verdict values right) := by
  obtain ⟨hlist, hpattern⟩ := Operator.takes_iff.1 h
  have hitems : (o.takesList && right.items?.isNone) = false := by
    cases ho : o.takesList with
    | false => rfl
    | true => simpa using hlist ho
  unfold evaluate Operator.verdict
  cases hd : o.demand with
  | allNull => rfl
  | someNotNull => rfl
  | some test =>
    have hpasses := anyPasses_eq (fun ht => hpattern (like_of_demand (.inl hd) ht)) values
    simp only [hitems, hpasses]
    rfl
  | none test =>
    have hpasses := anyPasses_eq (fun ht => hpattern (like_of_demand (.inr hd) ht)) values
    simp only [hitems, hpasses]
    rfl

/-- The test of a leaf refuses, or else gives its verdict. -/
theorem evaluate_eq (o : Operator) (values : List Json) (right : Json) :
    evaluate o values right = match refusal? o values right with
      | some e => .error e
      | none => .ok (o.verdict values right) := by
  -- no list, no pattern, or a right-hand side that the operator takes
  by_cases hlist : (o.takesList && right.items?.isNone) = true
  · rw [evaluate_of_list hlist, refusal?_of_list hlist]
  by_cases hpattern : (o.takesPattern && right.text?.isNone) = true
  · obtain ⟨ho, hright⟩ := Bool.and_eq_true_iff.1 hpattern
    rw [evaluate_of_pattern ho (Option.isNone_iff_eq_none.1 hright)]
    simp only [refusal?, if_neg hlist, hpattern, Bool.true_and]
    split <;> rfl
  · have htakes : o.Takes right := by
      rw [Operator.takes_iff]
      cases hl : o.takesList <;> cases hp : o.takesPattern <;>
        simp_all [Option.isSome_iff_ne_none]
    rw [evaluate_of_takes htakes]
    simp only [refusal?, if_neg hlist, hpattern, Bool.false_and]
    rfl

theorem invalidCondition_of_refusal? {o : Operator} {values : List Json} {right : Json}
    {e : StorageError} (h : refusal? o values right = some e) :
    ∃ reason, e = .invalidCondition reason := by
  unfold refusal? at h
  split at h
  · cases h
    exact ⟨_, rfl⟩
  · split at h
    · cases h
      exact ⟨_, rfl⟩
    · cases h

end Evaluation
end SynonymLookup
