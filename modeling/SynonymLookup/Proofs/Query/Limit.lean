import SynonymLookup.Proofs.Query.Reference
import SynonymLookup.Proofs.Query.Rejection

/-! Limits. The engine looks at the limit after it took a row, so a limited query has the first rows
of the query without a limit, as many as the limit says, but one even where it says none. -/

namespace SynonymLookup
namespace Store

/-- What is collected without a limit is collected under a limit as far as the limit is open behind
what was taken before, with one row at least. -/
theorem collectRows_limited {test : Entity → KeyMap Json → Except StorageError Bool}
    {l : List (Entity × KeyMap Json)} {rows : List Row} {taken : Nat}
    (h : collectRows none test taken l = .ok rows) (n : Nat) :
    collectRows (some n) test taken l = .ok (rows.take (max 1 (n - taken))) := by
  -- induction on the candidates, for any number of rows taken, which one that passes raises
  induction l generalizing taken rows with
  | nil =>
    cases h
    rw [List.take_nil]
    rfl
  | cons x rest ih =>
    cases hx : test x.1 x.2 with
    | error e =>
      rw [collectRows_of_error hx] at h
      cases h
    | ok verdict =>
      cases verdict with
      | false =>
        rw [collectRows_of_fail hx] at h ⊢
        exact ih h
      | true =>
        rw [collectRows_of_pass hx, Option.any_none, if_neg Bool.false_ne_true] at h
        cases hrest : collectRows none test (taken + 1) rest with
        | error e =>
          rw [hrest] at h
          cases h
        | ok later =>
          rw [hrest] at h
          cases h
          rw [collectRows_of_pass hx, Option.any_some, ih hrest]
          by_cases hfull : n ≤ taken + 1
          · have hone : max 1 (n - taken) = 1 := by omega
            rw [if_pos (decide_eq_true hfull), hone]
            rfl
          · have hmore : max 1 (n - taken) = max 1 (n - (taken + 1)) + 1 := by omega
            rw [if_neg (by simpa using hfull), hmore]
            rfl

theorem rows_limited {s : Store} {q : Query} {rows : List Row}
    (h : s.rows { q with limit := none } = .ok rows) (n : Nat) :
    s.rows { q with limit := some n } = .ok (rows.take (max 1 n)) := by
  have answers := answers_of_rows h
  have answersLimited : s.schema.Answers { q with limit := some n } :=
    ⟨answers.resolved, answers.known, answers.placed⟩
  rw [rows_of_answers answers] at h
  rw [rows_of_answers answersLimited]
  exact collectRows_limited h n

theorem take_eq_take_max_iff {α : Type} {l : List α} {n : Nat} :
    l.take (max 1 n) = l.take n ↔ n ≠ 0 ∨ l = [] := by
  rcases Nat.eq_zero_or_pos n with rfl | hn
  · cases l <;> simp
  · rw [Nat.max_eq_right hn]
    simp [Nat.ne_of_gt hn]

/-- Where a query without a limit succeeds, it succeeds under every limit, with the first rows of
those it has without one: as many as the limit says, or one if it says none. So a limit selects
exactly its first rows, and no more rows than it says, unless it is zero while there are rows. -/
theorem execute_limited {s : Store} {q : Query} {rows : List Row}
    (h : (s.execute { q with limit := none }).1 = .ok rows) (n : Nat) :
    s.execute { q with limit := some n } =
      (.ok (rows.take (max 1 n)), (s.execute { q with limit := none }).2) ∧
    ((s.execute { q with limit := some n }).1 = .ok (rows.take (min n rows.length)) ↔
      n ≠ 0 ∨ rows = []) ∧
    ∀ limited, (s.execute { q with limit := some n }).1 = .ok limited →
      (limited.length ≤ n ↔ n ≠ 0 ∨ rows = []) := by
  have hlimited : s.execute { q with limit := some n } =
      (.ok (rows.take (max 1 n)), (s.execute { q with limit := none }).2) :=
    Prod.ext (rows_limited h n) rfl
  refine ⟨hlimited, ?_, fun limited hok => ?_⟩
  · rw [hlimited, Except.ok.injEq, List.take_eq_take_min.symm]
    exact take_eq_take_max_iff
  · rw [hlimited] at hok
    cases hok
    cases rows with
    | nil => simp
    | cons row rest =>
      simp only [List.length_take, List.length_cons, reduceCtorEq, or_false]
      omega

/-- All three rows are the fox's, so a limit of two ends among them. -/
theorem execute_limited_names :
    ∃ rows, (nameStore.execute { nameQuery with limit := none }).1 = .ok rows ∧ rows.length = 3 ∧
      (nameStore.execute { nameQuery with limit := some 2 }).1 =
        .ok (rows.take (min 2 rows.length)) ∧
      (nameStore.execute { nameQuery with limit := some 7 }).1 = .ok rows := by
  have hlength : (nameStore.execute { nameQuery with limit := none }).1.map List.length =
      .ok 3 := by
    decide +kernel
  cases h : (nameStore.execute { nameQuery with limit := none }).1 with
  | error e =>
    rw [h] at hlength
    cases hlength
  | ok rows =>
    rw [h] at hlength
    have hthree : rows.length = 3 := Except.ok.inj hlength
    obtain ⟨-, htwo, -⟩ := execute_limited h 2
    obtain ⟨hseven, -, -⟩ := execute_limited h 7
    refine ⟨rows, rfl, hthree, htwo.2 (.inl (by decide)), ?_⟩
    rw [hseven, List.take_of_length_le (by omega)]

/-- A limit of zero lets one row in. -/
theorem one_row_at_limit_zero :
    (foxStore.execute { nodesWhere (.and []) with limit := none }).1 = .ok [⟨⟨"1"⟩, .empty⟩] ∧
    (foxStore.execute { nodesWhere (.and []) with limit := some 0 }).1 = .ok [⟨⟨"1"⟩, .empty⟩] ∧
    ¬∀ (s : Store) (q : Query) (n : Nat) (rows : List Row),
      (s.execute { q with limit := none }).1 = .ok rows →
        (s.execute { q with limit := some n }).1 = .ok (rows.take (min n rows.length)) := by
  have hall : (foxStore.execute { nodesWhere (.and []) with limit := none }).1 =
      .ok [⟨⟨"1"⟩, .empty⟩] := rfl
  have hzero : (foxStore.execute { nodesWhere (.and []) with limit := some 0 }).1 =
      .ok [⟨⟨"1"⟩, .empty⟩] := rfl
  refine ⟨hall, hzero, fun hprefix => ?_⟩
  have hnone := hprefix _ _ 0 _ hall
  rw [hzero] at hnone
  cases hnone

end Store
end SynonymLookup
