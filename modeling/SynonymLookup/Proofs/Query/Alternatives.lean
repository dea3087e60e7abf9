import SynonymLookup.Proofs.Evaluation.Algebra
import SynonymLookup.Proofs.Query.Rejection

/-! Parts of a condition that can stand for each other in every query. A part matters to a query by
the first placeholder and the first name without a place among its columns, and by what its
evaluation comes to; a list of alternatives comes to the same as its comparisons one by one. -/

namespace SynonymLookup

namespace ConditionOf

variable {γ ε : Type} {test : ComparisonOf γ → Except ε Bool}

/-- A tree with one place left open. -/
inductive Frame (γ : Type) where
  | here
  | and (before : List (ConditionOf γ)) (inner : Frame γ) (after : List (ConditionOf γ))
  | or (before : List (ConditionOf γ)) (inner : Frame γ) (after : List (ConditionOf γ))

def Frame.fill : Frame γ → ConditionOf γ → ConditionOf γ
  | here, c => c
  | and before inner after, c => .and (before ++ inner.fill c :: after)
  | or before inner after, c => .or (before ++ inner.fill c :: after)

theorem runThrough_replace {c d : ConditionOf γ} (h : c.holds test = d.holds test) (going : Bool)
    (before after : List (ConditionOf γ)) :
    runThrough test going (before ++ c :: after) =
      runThrough test going (before ++ d :: after) := by
  induction before with
  | nil => rw [List.nil_append, List.nil_append, runThrough, runThrough, h]
  | cons x before ih => rw [List.cons_append, List.cons_append, runThrough, runThrough, ih]

theorem Frame.holds_fill {c d : ConditionOf γ} (h : c.holds test = d.holds test) (f : Frame γ) :
    (f.fill c).holds test = (f.fill d).holds test := by
  induction f with
  | here => exact h
  | and before inner after ih =>
    rw [fill, fill, holds_and, holds_and]
    exact runThrough_replace ih true before after
  | or before inner after ih =>
    rw [fill, fill, holds_or, holds_or]
    exact runThrough_replace ih false before after

/-- What is found first among the columns of a tree depends on a part of it by what is found first
there. -/
theorem Frame.findSome?_fill {ρ : Type} {found : γ → Option ρ} {c d : ConditionOf γ}
    (h : c.columns.findSome? found = d.columns.findSome? found) (f : Frame γ) :
    (f.fill c).columns.findSome? found = (f.fill d).columns.findSome? found := by
  induction f with
  | here => exact h
  | and before inner after ih =>
    simp only [fill, columns_and, List.flatMap_append, List.flatMap_cons, List.findSome?_append, ih]
  | or before inner after ih =>
    simp only [fill, columns_or, List.flatMap_append, List.flatMap_cons, List.findSome?_append, ih]

end ConditionOf

namespace Condition

def someOf (column : Column) (o : Operator) (items : List Json) : Condition :=
  .or (items.map (compare column o))

def eachOf (column : Column) (o : Operator) (items : List Json) : Condition :=
  .and (items.map (compare column o))

theorem columns_compareAll (column : Column) (o : Operator) (items : List Json) :
    (items.map (compare column o)).flatMap ConditionOf.columns = items.map fun _ => column := by
  rw [List.flatMap_map, List.map_eq_flatMap]
  exact List.flatMap_congr fun v _ => ConditionOf.columns_leaf _

theorem leaves_compareAll (column : Column) (o : Operator) (items : List Json) :
    (items.map (compare column o)).flatMap ConditionOf.leaves =
      items.map fun v => ⟨column, o, v⟩ := by
  rw [List.flatMap_map, List.map_eq_flatMap]
  exact List.flatMap_congr fun v _ => ConditionOf.leaves_leaf _

end Condition

def Query.withCondition (q : Query) (condition : Condition) : Query := { q with condition }

namespace Schema

def strayName? (s : Schema) (entityType : String) : Column → Option String
  | .named name => if (errorOf? (s.locate entityType name)).isSome then some name else none
  | _ => none

def Finds (s : Schema) (entityType : String) (column : Column) : Prop :=
  ∃ name, column = .named name ∧
    ((s.entityType? entityType).isSome → ∃ l, s.locate entityType name = .ok l)

theorem unplaced?_eq (s : Schema) (q : Query) :
    s.unplaced? q = (q.condition.columns.findSome? (s.strayName? q.entityType)).or
      (q.columns.find? fun name => (errorOf? (s.locate q.entityType name)).isSome) := by
  rw [unplaced?, Query.names, List.find?_append]
  congr 1
  induction q.condition.columns with
  | nil => rfl
  | cons c rest ih =>
    rw [List.findSome?_cons, ← ih]
    cases c with
    | named name =>
      rw [strayName?, List.filterMap_cons]
      dsimp only [Column.name?]
      rw [List.find?_cons]
      split <;> simp_all
    | _ => rfl

theorem refusal?_of_unplaced {s : Schema} {q : Query} {name : String}
    (hresolved : q.condition.firstPlaceholder? = none)
    (hknown : (s.entityType? q.entityType).isSome)
    (hname : s.unplaced? q = some name) :
    s.refusal? q = some (.unknownColumn q.entityType name) := by
  have htype : (s.entityType? q.entityType).isNone = false := by simpa using hknown
  simp [refusal?, hresolved, htype, hname]

end Schema

namespace Store

/-- Nothing that a query on the type does tells the two parts apart. -/
structure Alike (s : Store) (entityType : String) (c d : Condition) : Prop where
  placeholder : c.firstPlaceholder? = d.firstPlaceholder?
  stray : (s.schema.entityType? entityType).isSome →
    c.columns.findSome? (s.schema.strayName? entityType) =
      d.columns.findSome? (s.schema.strayName? entityType)
  outcome : ∀ e b, c.holds (s.leafTest entityType e b) = d.holds (s.leafTest entityType e b)

variable {s : Store} {entityType : String} {column : Column} {items : List Json} {c d : Condition}

theorem Alike.fill (h : s.Alike entityType c d) (f : ConditionOf.Frame Column) :
    s.Alike entityType (f.fill c) (f.fill d) where
  placeholder := by
    have hfirst := h.placeholder
    simp only [Condition.firstPlaceholder?, List.find?_eq_findSome?_guard] at hfirst ⊢
    exact f.findSome?_fill hfirst
  stray hknown := f.findSome?_fill (h.stray hknown)
  outcome e b := f.holds_fill (h.outcome e b)

theorem Alike.refusal?_eq {q : Query} (h : s.Alike q.entityType c d) :
    s.schema.refusal? (q.withCondition c) = s.schema.refusal? (q.withCondition d) := by
  have hcondition : (q.withCondition c).condition.firstPlaceholder? =
      (q.withCondition d).condition.firstPlaceholder? := h.placeholder
  have htype : (q.withCondition c).entityType = (q.withCondition d).entityType := rfl
  unfold Schema.refusal?
  rw [hcondition, htype]
  cases hknown : (s.schema.entityType? (q.withCondition d).entityType).isNone with
  | true => rfl
  | false =>
    have hstray : s.schema.unplaced? (q.withCondition c) =
        s.schema.unplaced? (q.withCondition d) := by
      rw [Schema.unplaced?_eq, Schema.unplaced?_eq]
      show (c.columns.findSome? (s.schema.strayName? q.entityType)).or _ =
        (d.columns.findSome? (s.schema.strayName? q.entityType)).or _
      rw [h.stray (Option.isNone_eq_false_iff.1 hknown)]
      rfl
    rw [hstray]

theorem Alike.rows_eq {q : Query} (h : s.Alike q.entityType c d) :
    s.rows (q.withCondition c) = s.rows (q.withCondition d) := by
  cases hrefused : s.schema.refusal? (q.withCondition c) with
  | some reason => rw [rows_of_refusal? hrefused, rows_of_refusal? (h.refusal?_eq ▸ hrefused)]
  | none =>
    rw [rows_of_answers (Schema.answers_iff.2 hrefused),
      rows_of_answers (Schema.answers_iff.2 (h.refusal?_eq ▸ hrefused))]
    show collectRows q.limit (fun e b => c.holds (s.leafTest q.entityType e b)) 0
        (s.candidatesOf (q.withCondition c)) =
      collectRows q.limit (fun e b => d.holds (s.leafTest q.entityType e b)) 0
        (s.candidatesOf (q.withCondition d))
    simp only [h.outcome]
    rfl

theorem holds_eq_verdicts (htakes : ∀ l ∈ c.leaves, l.operator.Takes l.value) (e : Entity)
    (b : KeyMap Json) : c.holds (s.leafTest entityType e b) =
      .ok (c.meets fun l => l.operator.verdict (s.seen entityType e b l.column) l.value) :=
  ConditionOf.holds_eq_meets fun l hl => Evaluation.evaluate_of_takes (htakes l hl) _

theorem findSome?_repeated {ρ : Type} {found : Column → Option ρ}
    (h : items = [] → found column = none) :
    (items.map fun _ => column).findSome? found = found column := by
  cases items with
  | nil => exact (h rfl).symm
  | cons v rest =>
    rw [List.map_cons, List.findSome?_cons]
    cases hfound : found column with
    | some x => rfl
    | none => simp [hfound]

theorem strayName?_of_finds (h : s.schema.Finds entityType column)
    (hknown : (s.schema.entityType? entityType).isSome) :
    s.schema.strayName? entityType column = none := by
  obtain ⟨name, rfl, hplace⟩ := h
  obtain ⟨l, hl⟩ := hplace hknown
  simp [Schema.strayName?, hl, errorOf?]

/-- A comparison with a list is alike to a tree over the same column that comes to the same. -/
theorem alike_of_columns {o : Operator} (h : items ≠ [] ∨ s.schema.Finds entityType column)
    (hcolumns : d.columns = items.map fun _ => column)
    (houtcome : ∀ e b, (Condition.compare column o (.array items)).holds
      (s.leafTest entityType e b) = d.holds (s.leafTest entityType e b)) :
    s.Alike entityType (Condition.compare column o (.array items)) d where
  placeholder := by
    simp only [Condition.firstPlaceholder?, List.find?_eq_findSome?_guard, hcolumns]
    rw [findSome?_repeated]
    · simp [Condition.compare]
    · intro hempty
      obtain ⟨name, rfl, -⟩ := h.resolve_left (not_not_intro hempty)
      rfl
  stray hknown := by
    rw [hcolumns, findSome?_repeated]
    · simp [Condition.compare]
    · intro hempty
      exact strayName?_of_finds (h.resolve_left (not_not_intro hempty)) hknown
  outcome := houtcome

theorem takes_of_mem_compareAll {o : Operator} (h : o = .equal ∨ o = .notEqual) :
    ∀ l ∈ items.map fun v => (⟨column, o, v⟩ : Comparison), l.operator.Takes l.value := by
  intro l hl
  obtain ⟨v, -, rfl⟩ := List.mem_map.1 hl
  exact Evaluation.takes_of_equality h v

theorem leafTest_array {o : Operator} (h : o.takesPattern = false) (e : Entity) (b : KeyMap Json) :
    (Condition.compare column o (.array items)).holds (s.leafTest entityType e b) =
      .ok (o.verdict (s.seen entityType e b column) (.array items)) := by
  rw [Condition.compare, ConditionOf.holds]
  exact Evaluation.evaluate_of_takes (Evaluation.takes_array h items) _

theorem alike_someOf (h : items ≠ [] ∨ s.schema.Finds entityType column) :
    s.Alike entityType (Condition.compare column .isIn (.array items))
      (Condition.someOf column .equal items) := by
  refine alike_of_columns h ?_ fun e b => ?_
  · rw [Condition.someOf, ConditionOf.columns_or, Condition.columns_compareAll]
  · have htakes : ∀ l ∈ (Condition.someOf column .equal items).leaves,
        l.operator.Takes l.value := by
      rw [Condition.someOf, ConditionOf.leaves_or, Condition.leaves_compareAll]
      exact takes_of_mem_compareAll (.inl rfl)
    rw [leafTest_array rfl, holds_eq_verdicts htakes, Evaluation.verdict_isIn, Condition.someOf,
      ConditionOf.meets_or, List.any_map]
    simp [Condition.compare, Function.comp_def]

theorem alike_eachOf (h : items ≠ []) :
    s.Alike entityType (Condition.compare column .notIn (.array items))
      (Condition.eachOf column .notEqual items) := by
  refine alike_of_columns (.inl h) ?_ fun e b => ?_
  · rw [Condition.eachOf, ConditionOf.columns_and, Condition.columns_compareAll]
  · have htakes : ∀ l ∈ (Condition.eachOf column .notEqual items).leaves,
        l.operator.Takes l.value := by
      rw [Condition.eachOf, ConditionOf.leaves_and, Condition.leaves_compareAll]
      exact takes_of_mem_compareAll (.inr rfl)
    rw [leafTest_array rfl, holds_eq_verdicts htakes, Evaluation.verdict_notIn _ h,
      Condition.eachOf, ConditionOf.meets_and, List.all_map]
    simp [Condition.compare, Function.comp_def]

theorem unknown_of_noAlternatives {reason : StorageError}
    (h : s.rows { entityType, condition := Condition.someOf column .equal [] } = .error reason) :
    reason = .unknownEntityType entityType ∧ (s.schema.entityType? entityType).isNone = true := by
  cases hrefused : s.schema.refusal?
    { entityType, condition := Condition.someOf column .equal [] } with
  | none =>
    -- it is answered, and there is no leaf to be refused
    obtain ⟨l, hl, -⟩ := ((rows_eq_error_iff (Schema.answers_iff.2 hrefused)).1 h).exists_not_takes
    simp [Condition.someOf] at hl
  | some e =>
    rw [rows_of_refusal? hrefused] at h
    cases h
    rcases Schema.refusal?_cases hrefused with ⟨_, hc, -⟩ | ⟨-, ⟨hunknown, rfl⟩ | ⟨-, _, hname, -⟩⟩
    · cases hc
    · exact ⟨rfl, hunknown⟩
    · cases hname

/-- A list of no items still names its column. -/
theorem finds_of_rows_eq
    (h : s.rows { entityType, condition := Condition.compare column .isIn (.array []) } =
      s.rows { entityType, condition := Condition.someOf column .equal [] }) :
    s.schema.Finds entityType column := by
  have hrefused {reason : StorageError} (hreason : s.schema.refusal?
      { entityType, condition := Condition.compare column .isIn (.array []) } = some reason) :
      reason = .unknownEntityType entityType ∧ (s.schema.entityType? entityType).isNone = true :=
    unknown_of_noAlternatives (h.symm.trans (rows_of_refusal? hreason))
  cases column with
  | named name =>
    refine ⟨name, rfl, fun hknown => ?_⟩
    rw [← errorOf?_eq_none]
    by_contra hplace
    have hstray : s.schema.unplaced?
        { entityType, condition := Condition.compare (.named name) .isIn (.array []) } =
          some name := by
      simp [Schema.unplaced?_eq, Condition.compare, Schema.strayName?,
        Option.isSome_iff_ne_none, hplace]
    obtain ⟨-, hunknown⟩ := hrefused (Schema.refusal?_of_unplaced rfl hknown hstray)
    rw [Option.isNone_iff_eq_none.1 hunknown] at hknown
    cases hknown
  | _ =>
    obtain ⟨hreason, -⟩ := hrefused rfl
    cases hreason

/-- Negative operators are refused with their positive ones and answer against them where there is a
value, and the two tests for null against each other. A list is matched where equality with an item
is, so its comparisons one by one can take its place in every query, unless there are none and the
list names a column that the query must not have. -/
theorem operators_reduce (s : Store) (entityType : String) (column : Column) (items : List Json) :
    (∀ negative positive : Operator, negative.Opposes positive → ∀ values right,
      ((∃ e, Evaluation.evaluate negative values right = .error e) ↔
        ∃ e, Evaluation.evaluate positive values right = .error e) ∧
      ∀ verdict, Evaluation.evaluate positive values right = .ok verdict →
        Evaluation.evaluate negative values right = .ok (!values.isEmpty && !verdict)) ∧
    (∀ values right, ∃ verdict, Evaluation.evaluate .isNull values right = .ok verdict ∧
      Evaluation.evaluate .isNotNull values right = .ok (!verdict)) ∧
    (∀ values, ∃ verdict, Evaluation.evaluate .isIn values (.array items) = .ok verdict ∧
      (verdict = true ↔ ∃ v ∈ items, Evaluation.evaluate .equal values v = .ok true)) ∧
    ((∀ (q : Query) (f : ConditionOf.Frame Column), q.entityType = entityType →
      s.execute (q.withCondition (f.fill (Condition.compare column .isIn (.array items)))) =
        s.execute (q.withCondition (f.fill (Condition.someOf column .equal items)))) ↔
      items ≠ [] ∨ s.schema.Finds entityType column) ∧
    (items ≠ [] → ∀ (q : Query) (f : ConditionOf.Frame Column), q.entityType = entityType →
      s.execute (q.withCondition (f.fill (Condition.compare column .notIn (.array items)))) =
        s.execute (q.withCondition (f.fill (Condition.eachOf column .notEqual items)))) := by
  have hexecute {q : Query} {c d : Condition} (h : s.Alike q.entityType c d) :
      s.execute (q.withCondition c) = s.execute (q.withCondition d) := by
    rw [execute, execute, h.rows_eq]
  refine ⟨fun negative positive h values right => Evaluation.evaluate_opposes h values right,
    Evaluation.evaluate_isNotNull, fun values => ?_, ⟨fun h => ?_, ?_⟩, ?_⟩
  · refine ⟨_, Evaluation.evaluate_of_takes (Evaluation.takes_array rfl items) values, ?_⟩
    rw [Evaluation.verdict_isIn, List.any_eq_true]
    simp only [Evaluation.evaluate_of_takes (Evaluation.takes_of_equality (.inl rfl) _),
      Except.ok.injEq]
  · by_cases hitems : items = []
    · subst hitems
      have hrows := congrArg Prod.fst (h { entityType, condition := .or [] } .here rfl)
      exact .inr (finds_of_rows_eq hrows)
    · exact .inl hitems
  · rintro h q f rfl
    exact hexecute ((alike_someOf h).fill f)
  · rintro h q f rfl
    exact hexecute ((alike_eachOf h).fill f)

/-- On a node with an alias and without a code. -/
theorem operators_reduce_fox :
    Operator.notLike.Opposes .like ∧
    Evaluation.evaluate .notLike [.string "Fox", .null] (.string "f%") = .ok false ∧
    ([.string "fox", .null] : List Json) ≠ [] ∧
    foxStore.execute ((nodesWhere default).withCondition
        (.or [Condition.onColumn "code.value" .isNotNull .null,
          Condition.compare (.named "alias.value") .notIn (.array [.string "fox", .null])])) =
      foxStore.execute ((nodesWhere default).withCondition
        (.or [Condition.onColumn "code.value" .isNotNull .null,
          Condition.eachOf (.named "alias.value") .notEqual [.string "fox", .null]])) := by
  have hlike : Evaluation.evaluate .like [.string "Fox", .null] (.string "f%") = .ok true := by
    decide +kernel
  have hitems : ([.string "fox", .null] : List Json) ≠ [] := List.cons_ne_nil _ _
  obtain ⟨hopposes, -, -, -, heach⟩ :=
    operators_reduce foxStore "node" (.named "alias.value") [.string "fox", .null]
  exact ⟨.like, (hopposes _ _ .like _ _).2 _ hlike, hitems, heach hitems (nodesWhere default)
    (.or [Condition.onColumn "code.value" .isNotNull .null] .here []) rfl⟩

/-- A list of no items on a column that the schema does not have is refused, where one of no
alternatives is only not met. -/
theorem empty_list_refused :
    (foxStore.execute (nodesWhere (.or [
      Condition.compare (.named "nope.value") .isIn (.array []),
      Condition.onColumn "alias.value" .isNotNull .null]))).1 =
        .error (.unknownColumn "node" "nope.value") ∧
    (foxStore.execute (nodesWhere (.or [
      Condition.someOf (.named "nope.value") .equal [],
      Condition.onColumn "alias.value" .isNotNull .null]))).1 = .ok [⟨⟨"1"⟩, .empty⟩] := by
  decide +kernel

end Store

end SynonymLookup
