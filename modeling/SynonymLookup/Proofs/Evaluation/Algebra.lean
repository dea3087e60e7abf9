import SynonymLookup.Proofs.Evaluation

/-! How the operators hang together. A negative operator is refused where its positive one
is and answers against it on every column that has a value; the list operators ask for
equality with one of the items. -/

namespace SynonymLookup

/-- The positive operator that a negative one answers against. -/
inductive Operator.Opposes : Operator → Operator → Prop
  | equal : Opposes .notEqual .equal
  | like : Opposes .notLike .like
  | isIn : Opposes .notIn .isIn

namespace Evaluation

variable {negative positive : Operator}

theorem refusal?_isSome (o : Operator) (values : List Json) (right : Json) :
    (refusal? o values right).isSome = (o.takesList && right.items?.isNone ||
      o.takesPattern && right.text?.isNone && values.any (·.text?.isSome)) := by
  unfold refusal?
  split
  · rename_i hlist
    simp [hlist]
  · rename_i hlist
    rw [Bool.eq_false_iff.2 hlist, Bool.false_or]
    split <;> simp_all

theorem verdict_opposes (h : negative.Opposes positive) (values : List Json) (right : Json) :
    negative.verdict values right = (!values.isEmpty && !positive.verdict values right) := by
  cases h <;> rfl

/-- A negative operator is refused on the same values, and else answers against its positive
one where there is a value. -/
theorem evaluate_opposes (h : negative.Opposes positive) (values : List Json) (right : Json) :
    ((∃ e, evaluate negative values right = .error e) ↔
      ∃ e, evaluate positive values right = .error e) ∧
    ∀ verdict, evaluate positive values right = .ok verdict →
      evaluate negative values right = .ok (!values.isEmpty && !verdict) := by
  have hrefused : (refusal? negative values right).isSome =
      (refusal? positive values right).isSome := by
    rw [refusal?_isSome, refusal?_isSome]
    cases h <;> rfl
  rw [evaluate_eq, evaluate_eq]
  cases hpositive : refusal? positive values right with
  | some e =>
    obtain ⟨e', hnegative⟩ := Option.isSome_iff_exists.1 (hrefused.trans (by rw [hpositive]; rfl))
    simp [hnegative]
  | none =>
    have hnegative : refusal? negative values right = none := by
      simpa [hpositive] using hrefused
    simp [hnegative, verdict_opposes h]

theorem evaluate_isNotNull (values : List Json) (right : Json) :
    ∃ verdict, evaluate .isNull values right = .ok verdict ∧
      evaluate .isNotNull values right = .ok (!verdict) := by
  refine ⟨values.all Json.isNull, rfl, ?_⟩
  show Except.ok (values.any fun v => !v.isNull) = _
  rw [List.not_all_eq_any_not]

theorem takes_array {o : Operator} (h : o.takesPattern = false) (items : List Json) :
    o.Takes (.array items) := by
  rw [Operator.takes_iff, h]
  exact ⟨fun _ => rfl, fun hpattern => nomatch hpattern⟩

theorem takes_of_equality {o : Operator} (h : o = .equal ∨ o = .notEqual) (right : Json) :
    o.Takes right := by
  rcases h with rfl | rfl <;> simp [Operator.takes_iff, Operator.takesList, Operator.takesPattern]

theorem verdict_isIn (values items : List Json) :
    Operator.isIn.verdict values (.array items) =
      items.any fun v => Operator.equal.verdict values v := by
  rw [Bool.eq_iff_iff]
  simp only [Operator.verdict, Operator.demand, Test.admitsAny, Test.admits, Json.items?,
    Option.getD_some, List.any_eq_true, Option.any_eq_true]
  constructor
  · rintro ⟨v, hv, left, hleft, item, hitem, hequal⟩
    exact ⟨item, hitem, v, hv, left, hleft, hequal⟩
  · rintro ⟨item, hitem, v, hv, left, hleft, hequal⟩
    exact ⟨v, hv, left, hleft, item, hitem, hequal⟩

theorem verdict_notIn (values : List Json) {items : List Json} (h : items ≠ []) :
    Operator.notIn.verdict values (.array items) =
      items.all fun v => Operator.notEqual.verdict values v := by
  have hequal (v : Json) : Operator.notEqual.verdict values v =
      (!values.isEmpty && !Operator.equal.verdict values v) := verdict_opposes .equal values v
  rw [verdict_opposes .isIn, verdict_isIn, List.not_any_eq_all_not]
  simp only [hequal]
  cases values with
  | nil =>
    -- nothing equals an item of the list, but there is no value to differ from it
    obtain ⟨item, rest, rfl⟩ := List.exists_cons_of_ne_nil h
    rfl
  | cons v rest => simp

end Evaluation
end SynonymLookup
