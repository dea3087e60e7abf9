import SynonymLookup.Proofs.Condition.Refusal
import SynonymLookup.Proofs.Query.Rows

/-! What happens to a query before an entity is looked at: it is refused by the schema alone, or
every name in it has a place and the condition is tested on the candidates as it stands. -/

namespace SynonymLookup

/-- The names of columns in a query: those of the condition, depth first, then the selected ones. -/
def Query.names (q : Query) : List String := q.condition.columns.filterMap Column.name? ++ q.columns

namespace Schema

def unplaced? (s : Schema) (q : Query) : Option String :=
  q.names.find? fun name => (errorOf? (s.locate q.entityType name)).isSome

/-- Why a query is refused whatever is stored: the first placeholder, else the unknown type, else
the first name that leads nowhere. -/
def refusal? (s : Schema) (q : Query) : Option StorageError :=
  match q.condition.firstPlaceholder? with
  | some c => some (.unresolvedPlaceholder c.display)
  | none =>
    if (s.entityType? q.entityType).isNone then some (.unknownEntityType q.entityType)
    else (s.unplaced? q).map (.unknownColumn q.entityType)

structure Answers (s : Schema) (q : Query) : Prop where
  resolved : q.condition.firstPlaceholder? = none
  known : (s.entityType? q.entityType).isSome
  placed : ∀ name ∈ q.names, ∃ l, s.locate q.entityType name = .ok l

/-- The three reasons, each where the ones before it do not hold. -/
theorem refusal?_cases {s : Schema} {q : Query} {e : StorageError} (h : s.refusal? q = some e) :
    (∃ c, q.condition.firstPlaceholder? = some c ∧ e = .unresolvedPlaceholder c.display) ∨
      q.condition.firstPlaceholder? = none ∧
        ((s.entityType? q.entityType).isNone = true ∧ e = .unknownEntityType q.entityType ∨
          (s.entityType? q.entityType).isNone = false ∧
            ∃ name, s.unplaced? q = some name ∧ e = .unknownColumn q.entityType name) := by
  unfold refusal? at h
  split at h
  · rename_i c hplaceholder
    exact .inl ⟨c, hplaceholder, (Option.some.inj h).symm⟩
  · rename_i hresolved
    split at h
    · rename_i hunknown
      exact .inr ⟨hresolved, .inl ⟨hunknown, (Option.some.inj h).symm⟩⟩
    · rename_i hknown
      obtain ⟨name, hname, he⟩ := Option.map_eq_some_iff.1 h
      exact .inr ⟨hresolved, .inr ⟨Bool.eq_false_iff.2 hknown, name, hname, he.symm⟩⟩

theorem answers_iff {s : Schema} {q : Query} : s.Answers q ↔ s.refusal? q = none := by
  have hplaced : s.unplaced? q = none ↔
      ∀ name ∈ q.names, ∃ l, s.locate q.entityType name = .ok l := by
    simp [unplaced?, List.find?_eq_none, errorOf?_eq_none]
  constructor
  · intro h
    have hknown : (s.entityType? q.entityType).isNone = false := by simpa using h.known
    simp [refusal?, h.resolved, hknown, hplaced.2 h.placed]
  · intro h
    unfold refusal? at h
    split at h
    · cases h
    · rename_i hresolved
      split at h
      · cases h
      · rename_i hknown
        exact ⟨hresolved, Option.isSome_iff_ne_none.2 (by simpa using hknown),
          hplaced.1 (by simpa using h)⟩

theorem errorOf?_locate {s : Schema} {entityType : String} (h : (s.entityType? entityType).isSome)
    (name : String) : errorOf? (s.locate entityType name) =
      if (errorOf? (s.locate entityType name)).isSome then some (.unknownColumn entityType name)
      else none := by
  obtain ⟨t, ht⟩ := Option.isSome_iff_exists.1 h
  have hcases : (∃ l, s.locate entityType name = .ok l) ∨
      s.locate entityType name = .error (.unknownColumn entityType name) := by
    unfold locate
    simp only [ht]
    split
    · exact .inl ⟨_, rfl⟩
    · cases s.fieldLocation? entityType name with
      | none => exact .inr rfl
      | some l => exact .inl ⟨l, rfl⟩
  rcases hcases with ⟨l, hl⟩ | he
  · simp [hl, errorOf?]
  · simp [he, errorOf?]

theorem findSome?_locate {s : Schema} {entityType : String} (h : (s.entityType? entityType).isSome)
    (names : List String) :
    (names.findSome? fun name => errorOf? (s.locate entityType name)) =
      (names.find? fun name => (errorOf? (s.locate entityType name)).isSome).map
        (.unknownColumn entityType) := by
  induction names with
  | nil => rfl
  | cons name rest ih =>
    rw [List.findSome?_cons, List.find?_cons, errorOf?_locate h name, ih]
    cases (errorOf? (s.locate entityType name)).isSome <;> simp

end Schema

namespace Store

theorem errorOf?_target (s : Store) (entityType name : String) :
    errorOf? (s.target entityType name) = errorOf? (s.schema.locate entityType name) := by
  unfold target
  cases s.schema.locate entityType name <;> rfl

theorem errorOf?_targets (s : Store) (entityType : String) (names : List String) :
    errorOf? (s.targets entityType names) =
      names.findSome? fun name => errorOf? (s.schema.locate entityType name) := by
  induction names with
  | nil => rfl
  | cons name rest ih =>
    rw [List.findSome?_cons, ← errorOf?_target, targets, ← ih]
    cases s.target entityType name with
    | error e => rfl
    | ok t => cases s.targets entityType rest <;> rfl

/-- Without placeholders, the columns of a condition fail where their names do. -/
theorem findSome?_targetOf (s : Store) (entityType : String) {columns : List Column}
    (h : ∀ c ∈ columns, c.isPlaceholder = false) :
    (columns.findSome? fun c => errorOf? (s.targetOf entityType c)) =
      (columns.filterMap Column.name?).findSome? fun name =>
        errorOf? (s.schema.locate entityType name) := by
  induction columns with
  | nil => rfl
  | cons c rest ih =>
    have ih := ih fun d hd => h d (List.mem_cons_of_mem _ hd)
    cases c with
    | named name =>
      have hname : s.targetOf entityType (.named name) = s.target entityType name := rfl
      have hhead : (Column.named name).name? = some name := rfl
      rw [List.findSome?_cons, List.filterMap_cons, hhead, List.findSome?_cons, hname,
        errorOf?_target, ih]
    | _ => cases h _ List.mem_cons_self

theorem isPlaceholder_of_firstPlaceholder? {c : Condition} (h : c.firstPlaceholder? = none) :
    ∀ x ∈ c.columns, x.isPlaceholder = false := by
  intro x hx
  have := List.find?_eq_none.1 h x hx
  simpa using this

theorem rows_of_refusal? {s : Store} {q : Query} {e : StorageError}
    (h : s.schema.refusal? q = some e) : s.rows q = .error e := by
  unfold rows
  rcases Schema.refusal?_cases h with ⟨c, hplaceholder, rfl⟩ | ⟨hresolved, ⟨hunknown, rfl⟩ |
    ⟨hknown, name, hname, rfl⟩⟩
  · simp only [hplaceholder]
    rfl
  · simp only [hresolved, hunknown]
    rfl
  · have hcondition := ConditionOf.traverse_errorOf? (s.targetOf q.entityType) q.condition
    rw [findSome?_targetOf s q.entityType (isPlaceholder_of_firstPlaceholder? hresolved)]
      at hcondition
    have herror : (errorOf? (q.condition.traverse (s.targetOf q.entityType))).or
        (errorOf? (s.targets q.entityType q.columns)) =
          some (.unknownColumn q.entityType name) := by
      rw [hcondition, s.errorOf?_targets, ← List.findSome?_append, ← Query.names,
        Schema.findSome?_locate (Option.isNone_eq_false_iff.1 hknown), ← Schema.unplaced?, hname,
        Option.map_some]
    simp only [hresolved, hknown]
    cases htraverse : q.condition.traverse (s.targetOf q.entityType) with
    | error e =>
      rw [htraverse] at herror
      cases herror
      rfl
    | ok condition =>
      rw [htraverse] at herror
      rw [errorOf?_eq_some.1 herror]
      rfl

theorem answers_of_rows {s : Store} {q : Query} {rows : List Row} (h : s.rows q = .ok rows) :
    s.schema.Answers q := by
  rw [Schema.answers_iff]
  cases hrefusal : s.schema.refusal? q with
  | none => rfl
  | some reason =>
    rw [rows_of_refusal? hrefusal] at h
    cases h

def columnValues (s : Store) (entityType : String) (e : Entity) (name : String) : List Json :=
  match s.schema.locate entityType name with
  | .ok l => s.valuesAt e l
  | .error _ => []

/-- The values that a leaf sees beside a combination. -/
def seen (s : Store) (entityType : String) (e : Entity) (binding : KeyMap Json) :
    Column → List Json
  | .named name =>
    match binding.get? name with
    | some v => [v]
    | none => s.columnValues entityType e name
  | _ => []

def leafTest (s : Store) (entityType : String) (e : Entity) (binding : KeyMap Json)
    (l : Comparison) : Except StorageError Bool :=
  Evaluation.evaluate l.operator (s.seen entityType e binding l.column) l.value

def bindingsOf (s : Store) (entityType : String) (e : Entity) (names : List String) :
    List (KeyMap Json) :=
  names.foldl (fun found name =>
    found.flatMap fun b => (s.columnValues entityType e name).map fun v => b.insert name v) [.empty]

def candidatesOf (s : Store) (q : Query) : List (Entity × KeyMap Json) :=
  (s.entitiesOf q.entityType).values.flatMap fun e =>
    (s.bindingsOf q.entityType e q.columns).map fun b => (e, b)

def targetNamed (s : Store) (entityType : String) : Column → Target
  | .named name =>
    match s.schema.locate entityType name with
    | .ok l => ⟨name, l⟩
    | .error _ => ⟨name, .key name⟩
  | c => ⟨c.display, .key c.display⟩

theorem targetNamed_of_locate {s : Store} {entityType name : String} {l : Location}
    (h : s.schema.locate entityType name = .ok l) :
    s.targetNamed entityType (.named name) = ⟨name, l⟩ := by simp [targetNamed, h]

theorem targets_eq {s : Store} {entityType : String} {names : List String}
    (h : ∀ name ∈ names, ∃ l, s.schema.locate entityType name = .ok l) :
    s.targets entityType names =
      .ok (names.map fun name => s.targetNamed entityType (.named name)) := by
  induction names with
  | nil => rfl
  | cons name rest ih =>
    obtain ⟨l, hl⟩ := h name List.mem_cons_self
    have ih := ih fun n hn => h n (List.mem_cons_of_mem _ hn)
    rw [targets, ih, List.map_cons, targetNamed_of_locate hl]
    simp only [target, hl]
    rfl

theorem bindings_eq {s : Store} {entityType : String} {e : Entity} {names : List String}
    (h : ∀ name ∈ names, ∃ l, s.schema.locate entityType name = .ok l) :
    s.bindings e (names.map fun name => s.targetNamed entityType (.named name)) =
      s.bindingsOf entityType e names := by
  unfold bindings bindingsOf
  rw [List.foldl_map]
  apply List.foldl_ext
  intro found name hname
  obtain ⟨l, hl⟩ := h name hname
  rw [targetNamed_of_locate hl]
  simp only [columnValues, hl]

/-- A query that the schema answers tests its condition on its candidates. -/
theorem rows_of_answers {s : Store} {q : Query} (h : s.schema.Answers q) :
    s.rows q = collectRows q.limit
      (fun e b => q.condition.holds (s.leafTest q.entityType e b)) 0 (s.candidatesOf q) := by
  have hknown : (s.schema.entityType? q.entityType).isNone = false := by simpa using h.known
  have hresolved := isPlaceholder_of_firstPlaceholder? h.resolved
  have hcolumns : s.targets q.entityType q.columns = .ok _ :=
    targets_eq fun name hname => h.placed name (List.mem_append_right _ hname)
  have hplaced : ∀ c ∈ q.condition.columns, ∃ name l, c = .named name ∧
      s.schema.locate q.entityType name = .ok l := by
    intro c hc
    cases c with
    | named name =>
      obtain ⟨l, hl⟩ := h.placed name
        (List.mem_append_left _ (List.mem_filterMap.2 ⟨_, hc, rfl⟩))
      exact ⟨name, l, rfl, hl⟩
    | _ => cases hresolved _ hc
  have hcondition := ConditionOf.traverse_eq_map (f := s.targetOf q.entityType)
    (g := s.targetNamed q.entityType) fun c hc => by
      obtain ⟨name, l, rfl, hl⟩ := hplaced c hc
      rw [targetNamed_of_locate hl, targetOf, target, hl]
      rfl
  have hcandidates : s.candidates q.entityType
      (q.columns.map fun name => s.targetNamed q.entityType (.named name)) = s.candidatesOf q := by
    unfold candidates candidatesOf
    apply List.flatMap_congr
    intro e _
    rw [bindings_eq fun name hname => h.placed name (List.mem_append_right _ hname)]
  have htest (e : Entity) (b : KeyMap Json) :
      (q.condition.map (s.targetNamed q.entityType)).holds (s.leafHolds e b) =
        q.condition.holds (s.leafTest q.entityType e b) := by
    apply ConditionOf.holds_map
    intro l hl
    obtain ⟨name, place, hname, hplace⟩ := hplaced l.column (by
      rw [ConditionOf.columns_eq_leaves]
      exact List.mem_map_of_mem hl)
    cases hbinding : b.get? name <;>
      simp only [leafHolds, leafTest, seen, hname, targetNamed_of_locate hplace,
        columnValues, hplace, hbinding]
  unfold rows
  simp only [h.resolved, hknown, hcondition, hcolumns]
  show collectRows _ _ 0 (s.candidates q.entityType _) = _
  simp only [hcandidates, htest]

end Store
end SynonymLookup
