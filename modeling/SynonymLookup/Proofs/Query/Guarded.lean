import SynonymLookup.Proofs.KeyMap
import SynonymLookup.Proofs.Query.Rejection

/-! The query engine with its guards. Locations are collected first, and what comes later
looks a name up among them, looks again whether a column is a placeholder and whether an
operator compares with single values. The guards never find anything: what the engine answers
without them is what it answers. -/

namespace SynonymLookup

theorem mapError_bind {ε ε' α β : Type} (f : ε → ε') (x : Except ε α) (k : α → Except ε β) :
    (x >>= k).mapError f = x.mapError f >>= fun a => (k a).mapError f := by cases x <;> rfl

def Operator.positive : Operator → Operator
  | notEqual => equal
  | notLike => like
  | notIn => isIn
  | o => o

namespace ConditionOf

variable {γ ε ε' : Type}

theorem runThrough_mapError {f : ε → ε'} {test : ComparisonOf γ → Except ε Bool}
    {test' : ComparisonOf γ → Except ε' Bool} (going : Bool) {l : List (ConditionOf γ)}
    (h : ∀ c ∈ l, c.holds test' = (c.holds test).mapError f) :
    runThrough test' going l = (runThrough test going l).mapError f := by
  induction l with
  | nil => rfl
  | cons c rest ih =>
    rw [runThrough, runThrough, mapError_bind, h c List.mem_cons_self,
      ih fun d hd => h d (List.mem_cons_of_mem _ hd)]
    congr 1
    funext verdict
    split <;> rfl

theorem holds_mapError {f : ε → ε'} {test : ComparisonOf γ → Except ε Bool}
    {test' : ComparisonOf γ → Except ε' Bool} {c : ConditionOf γ}
    (h : ∀ l ∈ c.leaves, test' l = (test l).mapError f) :
    c.holds test' = (c.holds test).mapError f := by
  induction c using byChildren with
  | leaf c =>
    rw [holds, holds]
    exact h c (by simp)
  | and children ih =>
    rw [leaves_and] at h
    rw [holds_and, holds_and]
    exact runThrough_mapError true fun c hc =>
      ih c hc fun l hl => h l (List.mem_flatMap.2 ⟨c, hc, hl⟩)
  | or children ih =>
    rw [leaves_or] at h
    rw [holds_or, holds_or]
    exact runThrough_mapError false fun c hc =>
      ih c hc fun l hl => h l (List.mem_flatMap.2 ⟨c, hc, hl⟩)

end ConditionOf

namespace Guarded

/-- How a query ends without rows: it is refused, or a guard finds what should not be. -/
inductive Fault where
  | refused (error : StorageError)
  /-- A selected column was not located before. -/
  | unlocated (name : String)
  /-- A leaf is on a placeholder. -/
  | placeholder (column : Column)
  /-- The column of a leaf was not located before. -/
  | unknown (name : String)
  /-- The operator does not compare with single values. -/
  | incomparable (o : Operator)

def compare (o : Operator) (right value : Json) : Except Fault Bool :=
  match value.text? with
  | none => return false
  | some left =>
    match o with
    | .equal => return Evaluation.equalsText left right
    | .like =>
      match right.text? with
      | some pattern => return Like.isMatch pattern left
      | none => throw (.refused Evaluation.patternRequired)
    | .isIn => return (right.items?.getD []).any (Evaluation.equalsText left)
    | .less => return Evaluation.order left right Ordering.isLT
    | .lessOrEqual => return Evaluation.order left right Ordering.isLE
    | .greater => return Evaluation.order left right Ordering.isGT
    | .greaterOrEqual => return Evaluation.order left right Ordering.isGE
    | other => throw (.incomparable other)

def anyCompares (o : Operator) (right : Json) : List Json → Except Fault Bool
  | [] => return false
  | v :: rest => do if ← compare o right v then return true else anyCompares o right rest

/-- Tests all values, for a negative operator with its positive one. -/
def evaluateBy (o : Operator) (values : List Json) (right : Json) : Except Fault Bool := do
  if o.takesList && right.items?.isNone then throw (.refused (Evaluation.listRequired o))
  let any ← anyCompares o.positive right values
  return if o.positive = o then any else !values.isEmpty && !any

def evaluate (o : Operator) (values : List Json) (right : Json) : Except Fault Bool :=
  match o with
  | .isNull => return values.all Json.isNull
  | .isNotNull => return values.any fun v => !v.isNull
  | o => evaluateBy o values right

def collect (s : Schema) (entityType : String) :
    List String → KeyMap Location → Except Fault (KeyMap Location)
  | [], columns => return columns
  | name :: rest, columns =>
    if columns.contains name then collect s entityType rest columns
    else do
      let l ← (s.locate entityType name).mapError .refused
      collect s entityType rest (columns.insert name l)

def leafMatches (s : Store) (columns : KeyMap Location) (e : Entity) (binding : KeyMap Json)
    (l : Comparison) : Except Fault Bool :=
  match l.column with
  | .named name =>
    match binding.get? name with
    | some v => evaluate l.operator [v] l.value
    | none =>
      match columns.get? name with
      | some place => evaluate l.operator (s.valuesAt e place) l.value
      | none => throw (.unknown name)
  | column => throw (.placeholder column)

def bindings (s : Store) (columns : KeyMap Location) (e : Entity) :
    List String → List (KeyMap Json) → Except Fault (List (KeyMap Json))
  | [], found => return found
  | name :: rest, found =>
    match columns.get? name with
    | some place => bindings s columns e rest
        (found.flatMap fun b => (s.valuesAt e place).map fun v => b.insert name v)
    | none => throw (.unlocated name)

/-- Takes the rows of one entity after those taken before, and says whether the limit is reached. -/
def takeRows (limit : Option Nat) (test : KeyMap Json → Except Fault Bool) (e : Entity) :
    List (KeyMap Json) → List Row → Except Fault (List Row × Bool)
  | [], rows => return (rows, false)
  | b :: rest, rows => do
    if ← test b then
      let rows := rows ++ [(⟨e.id, b⟩ : Row)]
      if limit.any (· ≤ rows.length) then return (rows, true) else takeRows limit test e rest rows
    else takeRows limit test e rest rows

def scan (s : Store) (q : Query) (columns : KeyMap Location) :
    List Entity → List Row → Except Fault (List Row)
  | [], rows => return rows
  | e :: rest, rows => do
    let found ← bindings s columns e q.columns [.empty]
    let (rows, full) ← takeRows q.limit (fun b => q.condition.holds (leafMatches s columns e b)) e
      found rows
    if full then return rows else scan s q columns rest rows

def rows (s : Store) (q : Query) : Except Fault (List Row) := do
  match q.condition.firstPlaceholder? with
  | some c => throw (.refused (.unresolvedPlaceholder c.display))
  | none =>
    if (s.schema.entityType? q.entityType).isNone then
      throw (.refused (.unknownEntityType q.entityType))
    let columns ← collect s.schema q.entityType q.names .empty
    scan s q columns (s.entitiesOf q.entityType).values []

theorem compare_of_demand {o : Operator} {test : Test} (h : o.demand = .some test)
    (right value : Json) : compare o right value = match value.text? with
      | none => .ok false
      | some left => (Evaluation.passes test right left).mapError .refused := by
  unfold compare
  cases value.text? with
  | none => rfl
  | some left =>
    cases o with
    | like =>
      cases h
      simp only [Evaluation.passes]
      cases right.text? <;> rfl
    | _ => cases h <;> rfl

theorem anyCompares_of_demand {o : Operator} {test : Test} (h : o.demand = .some test)
    (right : Json) (values : List Json) :
    anyCompares o right values = (Evaluation.anyPasses test right values).mapError .refused := by
  induction values with
  | nil => rfl
  | cons v rest ih =>
    rw [anyCompares, compare_of_demand h, ih, Evaluation.anyPasses]
    cases v.text? with
    | none => rfl
    | some left =>
      show (Evaluation.passes test right left).mapError Fault.refused >>= _ = _
      rw [mapError_bind]
      congr 1
      funext verdict
      cases verdict <;> rfl

/-- An operator that tests single values does so with its positive one, which is its
own exactly if it is positive. -/
theorem positive_of_demand {o : Operator} {test : Test}
    (h : o.demand = .some test ∨ o.demand = .none test) :
    o.positive.demand = .some test ∧ (o.positive = o ↔ o.demand = .some test) := by
  cases o <;> rcases h with h | h <;> cases h <;> exact ⟨rfl, by decide⟩

theorem evaluate_of_demand {o : Operator} {test : Test}
    (h : o.demand = .some test ∨ o.demand = .none test) (values : List Json) (right : Json) :
    evaluate o values right = evaluateBy o values right := by
  cases o <;> rcases h with h | h <;> cases h <;> rfl

theorem evaluate_eq (o : Operator) (values : List Json) (right : Json) :
    evaluate o values right = (Evaluation.evaluate o values right).mapError .refused := by
  cases hd : o.demand with
  | allNull =>
    cases o <;> cases hd
    rfl
  | someNotNull =>
    cases o <;> cases hd
    rfl
  | some test =>
    obtain ⟨hdemand, hpositive⟩ := positive_of_demand (.inl hd)
    rw [evaluate_of_demand (.inl hd), evaluateBy, Evaluation.evaluate]
    simp only [hd, anyCompares_of_demand hdemand, if_pos (hpositive.2 hd)]
    cases o.takesList && right.items?.isNone with
    | true => rfl
    | false => cases Evaluation.anyPasses test right values <;> rfl
  | none test =>
    obtain ⟨hdemand, hpositive⟩ := positive_of_demand (.inr hd)
    have hnegative : o.positive ≠ o := fun h => by rw [hpositive.1 h] at hd; cases hd
    rw [evaluate_of_demand (.inr hd), evaluateBy, Evaluation.evaluate]
    simp only [hd, anyCompares_of_demand hdemand, if_neg hnegative]
    cases o.takesList && right.items?.isNone with
    | true => rfl
    | false => cases Evaluation.anyPasses test right values <;> rfl

def Locates (s : Schema) (entityType : String) (columns : KeyMap Location) (name : String) : Prop :=
  ∃ l, columns.get? name = some l ∧ s.locate entityType name = .ok l

variable {entityType : String} {columns : KeyMap Location}

theorem locates_empty (s : Schema) (entityType : String) :
    ∀ n, (KeyMap.empty : KeyMap Location).contains n = true → Locates s entityType .empty n :=
  fun n hn => by cases hn

theorem locates_insert {s : Schema} {name : String} {l : Location}
    (hcolumns : ∀ n, columns.contains n = true → Locates s entityType columns n)
    (h : s.locate entityType name = .ok l) :
    ∀ n, (columns.insert name l).contains n = true →
      Locates s entityType (columns.insert name l) n := by
  intro n hn
  by_cases hname : name = n
  · subst hname
    exact ⟨l, by simp, h⟩
  · have hold : columns.contains n = true := by
      simpa [KeyMap.contains, hname] using hn
    obtain ⟨place, hget, hlocate⟩ := hcolumns n hold
    exact ⟨place, by simp [hname, hget], hlocate⟩

theorem collect_of_placed {s : Schema} {names : List String}
    (hplaced : ∀ name ∈ names, ∃ l, s.locate entityType name = .ok l)
    (hcolumns : ∀ n, columns.contains n = true → Locates s entityType columns n) :
    ∃ located, collect s entityType names columns = .ok located ∧
      (∀ n, located.contains n = true → Locates s entityType located n) ∧
      ∀ n, columns.contains n = true ∨ n ∈ names → located.contains n = true := by
  induction names generalizing columns with
  | nil => exact ⟨columns, rfl, hcolumns, fun n hn => by simpa using hn⟩
  | cons name rest ih =>
    have hrest : ∀ n ∈ rest, ∃ l, s.locate entityType n = .ok l :=
      fun n hn => hplaced n (List.mem_cons_of_mem _ hn)
    rw [collect]
    by_cases hcontains : columns.contains name = true
    · obtain ⟨located, hcollect, hlocated, hcovers⟩ := ih hrest hcolumns
      rw [if_pos hcontains]
      refine ⟨located, hcollect, hlocated, fun n hn => hcovers n ?_⟩
      rcases hn with hn | hn
      · exact .inl hn
      · rcases List.mem_cons.1 hn with rfl | hn
        · exact .inl hcontains
        · exact .inr hn
    · obtain ⟨l, hl⟩ := hplaced name List.mem_cons_self
      obtain ⟨located, hcollect, hlocated, hcovers⟩ := ih hrest (locates_insert hcolumns hl)
      rw [if_neg hcontains, hl]
      refine ⟨located, hcollect, hlocated, fun n hn => hcovers n ?_⟩
      by_cases hname : name = n
      · subst hname
        exact .inl (by simp [KeyMap.contains])
      · rcases hn with hn | hn
        · exact .inl (by simpa [KeyMap.contains, hname] using hn)
        · exact .inr ((List.mem_cons.1 hn).resolve_left (Ne.symm hname))

/-- The first name without a place is refused, whatever was located before. -/
theorem collect_of_unplaced {s : Schema} {names : List String} {name : String}
    (hknown : (s.entityType? entityType).isSome)
    (hcolumns : ∀ n, columns.contains n = true → Locates s entityType columns n)
    (h : (names.find? fun name => (errorOf? (s.locate entityType name)).isSome) = some name) :
    collect s entityType names columns = .error (.refused (.unknownColumn entityType name)) := by
  -- a name that was located before has a place, so skipping it does not skip the one refused
  induction names generalizing columns with
  | nil => cases h
  | cons n rest ih =>
    rw [collect]
    cases hlocate : s.locate entityType n with
    | ok l =>
      rw [List.find?_cons_of_neg (by simp [hlocate, errorOf?])] at h
      by_cases hcontains : columns.contains n = true
      · rw [if_pos hcontains]
        exact ih hcolumns h
      · rw [if_neg hcontains]
        exact ih (locates_insert hcolumns hlocate) h
    | error e =>
      rw [List.find?_cons_of_pos (by simp [hlocate, errorOf?])] at h
      have hunknown := Schema.errorOf?_locate hknown n
      rw [hlocate] at hunknown
      have hcontains : ¬columns.contains n = true := fun hn => by
        obtain ⟨place, -, hplace⟩ := hcolumns n hn
        rw [hlocate] at hplace
        cases hplace
      rw [if_neg hcontains]
      cases h
      cases hunknown
      rfl

theorem columnValues_of_locates {s : Store} {name : String} {place : Location}
    (hplace : s.schema.locate entityType name = .ok place) (e : Entity) :
    s.columnValues entityType e name = s.valuesAt e place := by simp [Store.columnValues, hplace]

theorem bindings_eq {s : Store} {names : List String}
    (h : ∀ name ∈ names, Locates s.schema entityType columns name) (e : Entity)
    (found : List (KeyMap Json)) : bindings s columns e names found =
      .ok (names.foldl (fun found name => found.flatMap fun b =>
        (s.columnValues entityType e name).map fun v => b.insert name v) found) := by
  induction names generalizing found with
  | nil => rfl
  | cons name rest ih =>
    obtain ⟨place, hget, hplace⟩ := h name List.mem_cons_self
    rw [bindings, hget, List.foldl_cons, columnValues_of_locates hplace]
    exact ih (fun n hn => h n (List.mem_cons_of_mem _ hn)) _

theorem leafMatches_eq {s : Store} {l : Comparison} {name : String} (hname : l.column = .named name)
    (h : Locates s.schema entityType columns name) (e : Entity) (binding : KeyMap Json) :
    leafMatches s columns e binding l =
      (s.leafTest entityType e binding l).mapError .refused := by
  obtain ⟨place, hget, hplace⟩ := h
  unfold leafMatches Store.leafTest Store.seen
  simp only [hname]
  cases binding.get? name with
  | some v => exact evaluate_eq _ _ _
  | none =>
    simp only [hget, columnValues_of_locates hplace]
    exact evaluate_eq _ _ _

def continued (taken : List Row) (rows : Except StorageError (List Row)) :
    Except Fault (List Row) :=
  (rows.mapError .refused).map (taken ++ ·)

theorem continued_nil (rows : Except StorageError (List Row)) :
    continued [] rows = rows.mapError .refused := by cases rows <;> rfl

theorem continued_cons (taken : List Row) (row : Row) (rows : Except StorageError (List Row)) :
    continued taken (rows.map (row :: ·)) = continued (taken ++ [row]) rows := by
  cases rows with
  | error e => rfl
  | ok rows =>
    show Except.ok (taken ++ row :: rows) = Except.ok (taken ++ [row] ++ rows)
    rw [List.append_assoc, List.singleton_append]

/-- Taking the rows of one entity is going through its candidates, and stops where that does. -/
theorem takeRows_eq {limit : Option Nat} {test : Entity → KeyMap Json → Except StorageError Bool}
    {e : Entity} {guarded : KeyMap Json → Except Fault Bool}
    (htest : ∀ b, guarded b = (test e b).mapError .refused) (later : List (Entity × KeyMap Json))
    (found : List (KeyMap Json)) (taken : List Row) :
    continued taken (Store.collectRows limit test taken.length
        ((found.map fun b => (e, b)) ++ later)) =
      takeRows limit guarded e found taken >>= fun x =>
        if x.2 then .ok x.1
        else continued x.1 (Store.collectRows limit test x.1.length later) := by
  -- induction on the combinations, for any rows taken: the loop appends to them, the engine conses
  induction found generalizing taken with
  | nil => rfl
  | cons b rest ih =>
    rw [List.map_cons, List.cons_append, takeRows, htest]
    cases hverdict : test e b with
    | error reason =>
      rw [Store.collectRows_of_error hverdict]
      rfl
    | ok verdict =>
      cases verdict with
      | false =>
        rw [Store.collectRows_of_fail hverdict, ih taken]
        rfl
      | true =>
        have hlength : (taken ++ [(⟨e.id, b⟩ : Row)]).length = taken.length + 1 := by simp
        have ih := ih (taken ++ [⟨e.id, b⟩])
        rw [hlength, ← continued_cons] at ih
        rw [Store.collectRows_of_pass hverdict]
        show _ = (if limit.any (· ≤ (taken ++ [(⟨e.id, b⟩ : Row)]).length) then
          Except.ok (taken ++ [⟨e.id, b⟩], true)
          else takeRows limit guarded e rest (taken ++ [⟨e.id, b⟩])) >>= _
        rw [hlength]
        by_cases hlimit : limit.any (· ≤ taken.length + 1) = true
        · rw [if_pos hlimit, if_pos hlimit]
          rfl
        · rw [if_neg hlimit, if_neg hlimit]
          exact ih

theorem scan_eq {s : Store} {q : Query} (h : s.schema.Answers q)
    (hlocated : ∀ name ∈ q.names, Locates s.schema q.entityType columns name)
    (entities : List Entity) (taken : List Row) :
    scan s q columns entities taken = continued taken (Store.collectRows q.limit
      (fun e b => q.condition.holds (s.leafTest q.entityType e b)) taken.length
      (entities.flatMap fun e => (s.bindingsOf q.entityType e q.columns).map fun b => (e, b))) := by
  have htest (e : Entity) (b : KeyMap Json) : q.condition.holds (leafMatches s columns e b) =
      (q.condition.holds (s.leafTest q.entityType e b)).mapError .refused := by
    apply ConditionOf.holds_mapError
    intro l hl
    have hcolumn : l.column ∈ q.condition.columns := by
      rw [ConditionOf.columns_eq_leaves]
      exact List.mem_map_of_mem hl
    cases hname : l.column with
    | named name =>
      refine leafMatches_eq hname (hlocated name ?_) e b
      exact List.mem_append_left _ (List.mem_filterMap.2 ⟨_, hcolumn, by rw [hname]; rfl⟩)
    | _ =>
      have := Store.isPlaceholder_of_firstPlaceholder? h.resolved _ hcolumn
      rw [hname] at this
      cases this
  induction entities generalizing taken with
  | nil =>
    show Except.ok taken = Except.ok (taken ++ [])
    rw [List.append_nil]
  | cons e rest ih =>
    have hbindings := bindings_eq (fun name hname => hlocated name (List.mem_append_right _ hname))
      e [KeyMap.empty]
    rw [List.flatMap_cons, takeRows_eq (htest e), scan, hbindings]
    show takeRows _ _ e (s.bindingsOf q.entityType e q.columns) taken >>= _ = _
    congr 1
    funext x
    rw [← ih]
    rfl

theorem rows_eq (s : Store) (q : Query) : rows s q = (s.rows q).mapError .refused := by
  cases hrefusal : s.schema.refusal? q with
  | some e =>
    rw [Store.rows_of_refusal? hrefusal]
    unfold rows
    rcases Schema.refusal?_cases hrefusal
      with ⟨c, hplaceholder, rfl⟩ | ⟨hresolved, ⟨hunknown, rfl⟩ |
      ⟨hknown, name, hname, rfl⟩⟩
    · simp only [hplaceholder]
      rfl
    · simp only [hresolved, hunknown]
      rfl
    · have hcollect := collect_of_unplaced (Option.isNone_eq_false_iff.1 hknown)
        (locates_empty s.schema q.entityType) hname
      simp only [hresolved, hknown, hcollect]
      rfl
  | none =>
    have answers := Schema.answers_iff.2 hrefusal
    have hknown : (s.schema.entityType? q.entityType).isNone = false := by
      simpa using answers.known
    obtain ⟨columns, hcollect, hlocated, hcovers⟩ :=
      collect_of_placed answers.placed (locates_empty s.schema q.entityType)
    have hscan := scan_eq answers (fun name hname => hlocated name (hcovers name (.inr hname)))
      (s.entitiesOf q.entityType).values []
    rw [Store.rows_of_answers answers]
    unfold rows
    simp only [answers.resolved, hknown, hcollect]
    exact hscan.trans (continued_nil _)

end Guarded

namespace Store

theorem invalidCondition_of_answers {s : Store} {q : Query} {e : StorageError}
    (h : s.schema.Answers q) (he : s.rows q = .error e) :
    ∃ reason, e = .invalidCondition reason := by
  obtain ⟨_, x, _, -, -, -, hexposes⟩ := (rows_eq_error_iff h).1 he
  obtain ⟨l, -, hleaf⟩ := hexposes.exists_leaf
  exact Evaluation.invalidCondition_of_refusal? (leafTest_eq_error_iff.1 hleaf)

/-- An error that is not about values to compare with is what the schema refuses the query for. -/
theorem rows_eq_error_iff_refusal? {s : Store} {q : Query} {e : StorageError}
    (he : ∀ reason, e ≠ .invalidCondition reason) :
    s.rows q = .error e ↔ s.schema.refusal? q = some e := by
  refine ⟨fun hrows => ?_, rows_of_refusal?⟩
  cases hrefusal : s.schema.refusal? q with
  | some e' =>
    rw [rows_of_refusal? hrefusal] at hrows
    cases hrows
    rfl
  | none =>
    obtain ⟨reason, hreason⟩ := invalidCondition_of_answers (Schema.answers_iff.2 hrefusal) hrows
    exact absurd hreason (he reason)

/-- A query fails for its first placeholder, else for its unknown type, else for its first name that
leads nowhere, else only for a value to compare with. None of the guards finds anything, and of all
errors only the last depends on what is stored. -/
theorem execute_errors (s : Store) (q : Query) :
    (∀ e, s.schema.refusal? q = some e → (s.execute q).1 = .error e) ∧
    (s.schema.refusal? q = none → ∀ e, (s.execute q).1 = .error e →
      ∃ reason, e = .invalidCondition reason) ∧
    Guarded.rows s q = (s.execute q).1.mapError .refused ∧
    ∀ s' : Store, s'.schema = s.schema → ∀ e, (∀ reason, e ≠ .invalidCondition reason) →
      ((s'.execute q).1 = .error e ↔ (s.execute q).1 = .error e) := by
  refine ⟨fun e => rows_of_refusal?, fun h e =>
    invalidCondition_of_answers (Schema.answers_iff.2 h),
      Guarded.rows_eq s q, fun s' hschema e he => ?_⟩
  unfold execute
  rw [rows_eq_error_iff_refusal? he, rows_eq_error_iff_refusal? he, hschema]

theorem execute_errors_in_order :
    let lost := Condition.onColumn "lost" .equal .null
    let titled := Condition.onColumn "title" .equal .null
    let placed := ConditionOf.and [lost, .or [Condition.onEntityId .equal .null]]
    (foxStore.execute ⟨"owl", placed, ["gone"], none⟩).1 =
      .error (.unresolvedPlaceholder Column.entityId.display) ∧
    (foxStore.execute ⟨"owl", lost, ["gone"], none⟩).1 = .error (.unknownEntityType "owl") ∧
    (foxStore.execute ⟨"node", .and [titled, lost], ["gone"], none⟩).1 =
      .error (.unknownColumn "node" "lost") ∧
    (foxStore.execute ⟨"node", titled, ["title", "gone"], none⟩).1 =
      .error (.unknownColumn "node" "gone") :=
  ⟨(execute_errors foxStore _).1 _ (by decide), (execute_errors foxStore _).1 _ (by decide),
    (execute_errors foxStore _).1 _ (by decide), (execute_errors foxStore _).1 _ (by decide)⟩

end Store
end SynonymLookup
