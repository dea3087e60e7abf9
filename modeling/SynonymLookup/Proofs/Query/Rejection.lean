import SynonymLookup.Proofs.Evaluation.Verdict
import SynonymLookup.Proofs.Query.Preparation

/-! When a query is refused for its condition: the engine has to come to a candidate for which it
comes to a leaf that is refused. What it does not come to is not looked at. -/

namespace SynonymLookup
namespace Store

variable {test : Entity → KeyMap Json → Except StorageError Bool}

/-- With so many rows taken, so many more leave the limit open. -/
def LeavesOpen (limit : Option Nat) (taken more : Nat) : Prop :=
  ∀ n, limit = some n → more = 0 ∨ taken + more < n

theorem leavesOpen_succ {limit : Option Nat} {taken more : Nat} :
    LeavesOpen limit taken (more + 1) ↔
      limit.any (· ≤ taken + 1) = false ∧ LeavesOpen limit (taken + 1) more := by
  cases limit with
  | none => simp [LeavesOpen]
  | some n =>
    simp only [LeavesOpen, Option.some.injEq, forall_eq', Option.any_some, decide_eq_false_iff_not]
    omega

/-- Refused rows come from a candidate whose test is refused, at which the limit is still open. -/
theorem exists_refused {limit : Option Nat} {taken : Nat} {e : StorageError}
    {l : List (Entity × KeyMap Json)} (h : collectRows limit test taken l = .error e) :
    ∃ before x after, l = before ++ x :: after ∧
      (∀ y ∈ before, ∃ verdict, test y.1 y.2 = .ok verdict) ∧
      LeavesOpen limit taken (before.countP (passing test)) ∧ test x.1 x.2 = .error e := by
  -- induction on the candidates, for any number of rows taken, which one that passes raises
  induction l generalizing taken with
  | nil => cases h
  | cons x rest ih =>
    cases hx : test x.1 x.2 with
    | error e' =>
      rw [collectRows_of_error hx] at h
      cases h
      exact ⟨[], x, rest, rfl, fun y hy => absurd hy List.not_mem_nil, fun n _ => .inl rfl, hx⟩
    | ok verdict =>
      cases verdict with
      | false =>
        rw [collectRows_of_fail hx] at h
        obtain ⟨before, y, after, rfl, hbefore, hopen, hy⟩ := ih h
        refine ⟨x :: before, y, after, rfl, List.forall_mem_cons.2 ⟨⟨false, hx⟩, hbefore⟩, ?_, hy⟩
        rwa [List.countP_cons_of_neg (by simp [passing_of_ok hx])]
      | true =>
        rw [collectRows_of_pass hx] at h
        split at h
        · cases h
        · rename_i hlimit
          have hrest : collectRows limit test (taken + 1) rest = .error e := by
            cases hr : collectRows limit test (taken + 1) rest <;> rw [hr] at h <;> cases h
            rfl
          obtain ⟨before, y, after, rfl, hbefore, hopen, hy⟩ := ih hrest
          refine ⟨x :: before, y, after, rfl, List.forall_mem_cons.2 ⟨⟨true, hx⟩, hbefore⟩, ?_, hy⟩
          rw [List.countP_cons_of_pos (passing_of_ok hx)]
          exact leavesOpen_succ.2 ⟨Bool.eq_false_iff.2 hlimit, hopen⟩

theorem collectRows_of_refused {limit : Option Nat} {taken : Nat} {e : StorageError}
    {before after : List (Entity × KeyMap Json)} {x : Entity × KeyMap Json}
    (hbefore : ∀ y ∈ before, ∃ verdict, test y.1 y.2 = .ok verdict)
    (hopen : LeavesOpen limit taken (before.countP (passing test))) (hx : test x.1 x.2 = .error e) :
    collectRows limit test taken (before ++ x :: after) = .error e := by
  induction before generalizing taken with
  | nil => exact collectRows_of_error hx after
  | cons y before ih =>
    obtain ⟨⟨verdict, hy⟩, hbefore⟩ := List.forall_mem_cons.1 hbefore
    cases verdict with
    | false =>
      rw [List.countP_cons_of_neg (by simp [passing_of_ok hy])] at hopen
      rw [List.cons_append, collectRows_of_fail hy]
      exact ih hbefore hopen
    | true =>
      rw [List.countP_cons_of_pos (passing_of_ok hy), leavesOpen_succ] at hopen
      rw [List.cons_append, collectRows_of_pass hy, hopen.1, if_neg Bool.false_ne_true,
        ih hbefore hopen.2]
      rfl

/-- The engine comes to a candidate for which it comes to a leaf that is refused for the reason: the
candidates before it are all answered, and those of them that pass leave the limit open. -/
def Rejects (s : Store) (q : Query) (reason : StorageError) : Prop :=
  ∃ before x after, s.candidatesOf q = before ++ x :: after ∧
    (∀ y ∈ before, ∃ verdict,
      q.condition.holds (s.leafTest q.entityType y.1 y.2) = .ok verdict) ∧
    LeavesOpen q.limit 0
      (before.countP (passing fun e b => q.condition.holds (s.leafTest q.entityType e b))) ∧
    q.condition.Exposes (s.leafTest q.entityType x.1 x.2) reason

theorem rows_eq_error_iff {s : Store} {q : Query} (h : s.schema.Answers q) {reason : StorageError} :
    s.rows q = .error reason ↔ s.Rejects q reason := by
  rw [rows_of_answers h]
  constructor
  · intro hrows
    obtain ⟨before, x, after, hl, hbefore, hopen, hx⟩ := exists_refused hrows
    exact ⟨before, x, after, hl, hbefore, hopen, ConditionOf.holds_eq_error_iff.1 hx⟩
  · rintro ⟨before, x, after, hl, hbefore, hopen, hx⟩
    rw [hl]
    exact collectRows_of_refused hbefore hopen (ConditionOf.holds_eq_error_iff.2 hx)

theorem leafTest_eq_error_iff {s : Store} {entityType : String} {e : Entity} {b : KeyMap Json}
    {l : Comparison} {reason : StorageError} :
    s.leafTest entityType e b l = .error reason ↔
      Evaluation.refusal? l.operator (s.seen entityType e b l.column) l.value = some reason := by
  rw [leafTest, Evaluation.evaluate_eq]
  cases Evaluation.refusal? l.operator (s.seen entityType e b l.column) l.value <;> simp

/-- A leaf that is given what its operator compares with is never what a query is refused for. -/
theorem Rejects.exists_not_takes {s : Store} {q : Query} {reason : StorageError}
    (h : s.Rejects q reason) : ∃ l ∈ q.condition.leaves, ¬l.operator.Takes l.value := by
  obtain ⟨before, x, after, -, -, -, hx⟩ := h
  obtain ⟨l, hl, hrefused⟩ := hx.exists_leaf
  refine ⟨l, hl, fun htakes => ?_⟩
  rw [leafTest, Evaluation.evaluate_of_takes htakes] at hrefused
  cases hrefused

/-- Among queries that the schema answers, exactly those are invalid for which the engine comes to a
refused leaf: one of a list operator without a list, or of a pattern operator that has values with
text but no pattern with one. -/
theorem execute_eq_invalidCondition_iff {s : Store} {q : Query} (h : s.schema.Answers q) :
    (∀ reason, (s.execute q).1 = .error (.invalidCondition reason) ↔
      s.Rejects q (.invalidCondition reason)) ∧
    (∀ e b, ∀ l ∈ q.condition.leaves, ∀ reason, s.leafTest q.entityType e b l = .error reason ↔
      Evaluation.refusal? l.operator (s.seen q.entityType e b l.column) l.value = some reason) ∧
    ((∃ reason, (s.execute q).1 = .error (.invalidCondition reason)) →
      ∃ l ∈ q.condition.leaves, ¬l.operator.Takes l.value) := by
  refine ⟨fun reason => rows_eq_error_iff h, fun e b l _ reason => leafTest_eq_error_iff, ?_⟩
  rintro ⟨reason, hreason⟩
  exact ((rows_eq_error_iff h).1 hreason).exists_not_takes

def foxStore : Store :=
  let node : EntityType :=
    { id := "node", keys := { bundle := some "type", label := some "title" } }
  let fox : Entity := { entityType := "node", bundle := "animal", id := ⟨"1"⟩ }
  (((({} : Store).mapSchema (·.insertEntityType node)).mapSchema
    (·.insertField "node" "animal" { name := "alias", fieldType := "string" })).mapSchema
    (·.insertField "node" "animal" { name := "code", fieldType := "string" })).insertEntity
    (fox.withValues "alias" [.string "Fox"])

def nodesWhere (condition : Condition) : Query := { entityType := "node", condition }

def unlisted : Condition := Condition.onColumn "alias.value" .isIn (.string "Fox")

theorem execute_eq_invalidCondition_iff_unlisted :
    foxStore.schema.Answers (nodesWhere unlisted) ∧
    foxStore.Rejects (nodesWhere unlisted)
      (Evaluation.listRequired .isIn) ∧
    ∃ l ∈ (nodesWhere unlisted).condition.leaves, ¬l.operator.Takes l.value := by
  have answers : foxStore.schema.Answers (nodesWhere unlisted) := Schema.answers_iff.2 (by decide)
  have hrejected : (foxStore.execute (nodesWhere unlisted)).1 =
      .error (Evaluation.listRequired .isIn) := by decide +kernel
  obtain ⟨hrejects, -, hleaf⟩ := execute_eq_invalidCondition_iff answers
  exact ⟨answers, (hrejects _).1 hrejected, hleaf ⟨_, hrejected⟩⟩

/-- The same defect is refused or not as entities are stored, as children are ordered and as the
column has values; and a pattern that is a string is refused for being empty. -/
theorem rejection_depends_on_data_and_order :
    foxStore.schema.Answers (nodesWhere unlisted) ∧
    (foxStore.execute (nodesWhere unlisted)).1 =
      .error (Evaluation.listRequired .isIn) ∧
    ((foxStore.removeEntity "node" ⟨"1"⟩).execute (nodesWhere unlisted)).1 = .ok [] ∧
    (foxStore.execute (nodesWhere (.and [unlisted, .or []]))).1 =
      .error (Evaluation.listRequired .isIn) ∧
    (foxStore.execute (nodesWhere (.and [.or [], unlisted]))).1 = .ok [] ∧
    (foxStore.execute (nodesWhere (Condition.onColumn "alias.value" .like .null))).1 =
      .error Evaluation.patternRequired ∧
    (foxStore.execute (nodesWhere (Condition.onColumn "code.value" .like .null))).1 = .ok [] ∧
    (foxStore.execute (nodesWhere (Condition.onColumn "alias.value" .like (.string "")))).1 =
      .error Evaluation.patternRequired :=
  ⟨Schema.answers_iff.2 (by decide), by decide +kernel⟩

end Store
end SynonymLookup
