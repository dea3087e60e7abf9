import Mathlib.Data.List.Forall2
import Mathlib.Data.List.Nodup
import Mathlib.Data.List.Pairwise
import SynonymLookup.Proofs.Evaluation.Verdict
import SynonymLookup.Proofs.KeyMap
import SynonymLookup.Proofs.Query.Preparation
import SynonymLookup.Proofs.Store.Consistent

/-! What a query without a limit asks for, said without the engine: for each entity of the type the
tuples of one value for each selected column, of which those are kept that meet the condition. -/

namespace SynonymLookup

/-- Every tuple of positions below the sizes, the first position turning slowest. -/
def positions : List Nat → List (List Nat)
  | [] => [[]]
  | n :: sizes => (List.range n).flatMap fun i => (positions sizes).map (i :: ·)

theorem mem_positions_iff {sizes p : List Nat} :
    p ∈ positions sizes ↔ List.Forall₂ (· < ·) p sizes := by
  induction sizes generalizing p with
  | nil => simp [positions, List.forall₂_nil_right_iff]
  | cons n sizes ih =>
    cases p with
    | nil => simp [positions, List.forall₂_nil_left_iff]
    | cons i p => simp [positions, ih]

/-- The tuples come in lexicographic order, so that none comes twice. -/
theorem positions_sorted (sizes : List Nat) :
    (positions sizes).Pairwise (List.Lex (· < ·)) := by
  induction sizes with
  | nil => simp [positions]
  | cons n sizes ih =>
    have hrest (i : Nat) : ((positions sizes).map (i :: ·)).Pairwise (List.Lex (· < ·)) :=
      ih.map _ fun _ _ h => .cons h
    -- tuples with one first position are ordered by the rest of it, all others by the first
    rw [positions, List.pairwise_flatMap]
    refine ⟨fun i _ => hrest i, List.pairwise_lt_range.imp ?_⟩
    intro i j hij p hp p' hp'
    obtain ⟨_, -, rfl⟩ := List.mem_map.1 hp
    obtain ⟨_, -, rfl⟩ := List.mem_map.1 hp'
    exact .rel hij

def pick (values : List (List Json)) (p : List Nat) : List Json :=
  List.zipWith (fun vs i => vs.getD i .null) values p

def combinations (values : List (List Json)) : List (List Json) :=
  (positions (values.map List.length)).map (pick values)

theorem map_getD_range (vs : List Json) :
    ((List.range vs.length).map fun i => vs.getD i .null) = vs := by
  apply List.ext_getElem
  · simp
  · intro i _ hi
    simp [hi]

theorem combinations_cons (vs : List Json) (rest : List (List Json)) :
    combinations (vs :: rest) = vs.flatMap fun v => (combinations rest).map (v :: ·) := by
  have hnest : combinations (vs :: rest) = (List.range vs.length).flatMap fun i =>
      (combinations rest).map (vs.getD i .null :: ·) := by
    simp only [combinations, List.map_cons, positions, List.map_flatMap, List.map_map]
    rfl
  rw [hnest]
  conv_rhs => rw [← map_getD_range vs, List.flatMap_map]

theorem combinations_eq_nil {values : List (List Json)} (h : [] ∈ values) :
    combinations values = [] := by
  rw [combinations, List.map_eq_nil_iff, List.eq_nil_iff_forall_not_mem]
  intro p hp
  induction values generalizing p with
  | nil => cases h
  | cons vs rest ih =>
    rw [mem_positions_iff, List.map_cons] at hp
    cases hp with
    | cons hi hp =>
      rcases List.mem_cons.1 h with rfl | h
      · exact Nat.not_lt_zero _ hi
      · exact ih h _ (mem_positions_iff.2 hp)

namespace KeyMap

theorem get?_ofList_of_nodup {α : Type} {l : List (String × α)} (h : (l.map (·.1)).Nodup)
    (key : String) : (ofList l).get? key = findEntry key l := by
  cases hfind : findEntry key l with
  | none =>
    rw [get?_ofList, findEntry_eq_none_iff]
    intro e he
    exact findEntry_eq_none_iff.1 hfind e (List.mem_reverse.1 he)
  | some v =>
    have hmem := mem_of_findEntry hfind
    apply get?_ofList_of_unique hmem
    intro w hw
    exact congrArg Prod.snd (List.inj_on_of_nodup_map h hw hmem rfl)

end KeyMap

namespace Store

/-- What a leaf on a column sees beside a tuple of values: on a selected column the tuple's value,
on any other all values of the entity. -/
def sees (s : Store) (q : Query) (e : Entity) (vs : List Json) : Column → List Json
  | .named name =>
    match KeyMap.findEntry name (q.columns.zip vs) with
    | some v => [v]
    | none => s.columnValues q.entityType e name
  | _ => []

def satisfies (s : Store) (q : Query) (e : Entity) (vs : List Json) : Bool :=
  q.condition.meets fun l => l.operator.verdict (s.sees q e vs l.column) l.value

def combinationsOf (s : Store) (q : Query) (e : Entity) : List (List Json) :=
  combinations (q.columns.map (s.columnValues q.entityType e))

def rowsAsked (s : Store) (q : Query) : List Row :=
  (s.entitiesOf q.entityType).values.flatMap fun e =>
    ((s.combinationsOf q e).filter (s.satisfies q e)).map fun vs =>
      ⟨e.id, KeyMap.ofList (q.columns.zip vs)⟩

/-- The bindings made column by column from a first one are its extensions by the combinations. -/
theorem foldl_bindings (column : String → List Json) (names : List String)
    (found : List (KeyMap Json)) :
    names.foldl
        (fun found name => found.flatMap fun b => (column name).map fun v => b.insert name v)
        found =
      found.flatMap fun b => (combinations (names.map column)).map fun vs =>
        (names.zip vs).foldl (fun b e => b.insert e.1 e.2) b := by
  -- induction on the columns, for any first bindings: each column extends all found so far
  induction names generalizing found with
  | nil => simp [combinations, positions, pick]
  | cons name rest ih =>
    rw [List.foldl_cons, ih, List.flatMap_assoc]
    apply List.flatMap_congr
    intro b _
    rw [List.map_cons, combinations_cons, List.flatMap_map, List.map_flatMap]
    apply List.flatMap_congr
    intro v _
    rw [List.map_map]
    rfl

theorem bindingsOf_eq (s : Store) (entityType : String) (e : Entity) (names : List String) :
    s.bindingsOf entityType e names =
      (combinations (names.map (s.columnValues entityType e))).map fun vs =>
        KeyMap.ofList (names.zip vs) := by
  rw [bindingsOf, foldl_bindings]
  exact List.flatMap_singleton _ _

theorem keys_zip_sublist (names : List String) (vs : List Json) :
    ((names.zip vs).map (·.1)).Sublist names := by
  induction names generalizing vs with
  | nil => simp
  | cons name rest ih =>
    cases vs with
    | nil => simp
    | cons v vs => simpa using ih vs

theorem seen_ofList {q : Query} (h : q.columns.Nodup) (s : Store) (e : Entity) (vs : List Json)
    (c : Column) :
    s.seen q.entityType e (KeyMap.ofList (q.columns.zip vs)) c = s.sees q e vs c := by
  have hkeys : ((q.columns.zip vs).map (·.1)).Nodup :=
    h.sublist (keys_zip_sublist _ _)
  cases c with
  | named name =>
    cases hfind : KeyMap.findEntry name (q.columns.zip vs) <;>
      simp only [seen, sees, KeyMap.get?_ofList_of_nodup hkeys, hfind]
  | _ => rfl

theorem rows_eq_rowsAsked {s : Store} {q : Query} (h : s.schema.Answers q) (hlimit : q.limit = none)
    (hcolumns : q.columns.Nodup) (htakes : ∀ l ∈ q.condition.leaves, l.operator.Takes l.value) :
    s.rows q = .ok (s.rowsAsked q) := by
  have hholds : ∀ x ∈ s.candidatesOf q,
      q.condition.holds (s.leafTest q.entityType x.1 x.2) = .ok (q.condition.meets fun l =>
        l.operator.verdict (s.seen q.entityType x.1 x.2 l.column) l.value) := by
    intro x _
    exact ConditionOf.holds_eq_meets fun l hl => Evaluation.evaluate_of_takes (htakes l hl) _
  rw [rows_of_answers h, hlimit, collectRows_eq hholds, candidatesOf, rowsAsked,
    List.filter_flatMap, List.map_flatMap]
  congr 1
  apply List.flatMap_congr
  intro e _
  rw [bindingsOf_eq, List.map_map, List.filter_map, List.map_map, combinationsOf]
  congr 1
  apply List.filter_congr
  intro vs _
  simp only [Function.comp_apply, seen_ofList hcolumns, satisfies]

theorem combinationsOf_eq_nil {s : Store} {q : Query} {e : Entity} {name : String}
    (hname : name ∈ q.columns) (h : s.columnValues q.entityType e name = []) :
    s.combinationsOf q e = [] := combinations_eq_nil (List.mem_map.2 ⟨name, hname, h⟩)

/-- An entity without a value for a selected column has no row. -/
theorem not_mem_rowsAsked {s : Store} {q : Query} {e : Entity} (built : s.Built)
    (he : e ∈ (s.entitiesOf q.entityType).values) {name : String} (hname : name ∈ q.columns)
    (h : s.columnValues q.entityType e name = []) : ∀ row ∈ s.rowsAsked q, row.entityId ≠ e.id := by
  intro row hrow hid
  obtain ⟨e', he', hrow⟩ := List.mem_flatMap.1 hrow
  obtain ⟨vs, hvs, rfl⟩ := List.mem_map.1 hrow
  have hsame : e' = e := by
    have hload' := built.consistent.load_of_mem he'
    rw [show e'.id = e.id from hid, built.consistent.load_of_mem he] at hload'
    exact (Option.some.inj hload').symm
  rw [hsame, combinationsOf_eq_nil hname h] at hvs
  cases hvs

/-- Without a limit, a query that the schema answers, over different columns and with leaves
that are given what their operators compare with, succeeds with the rows that it asks for:
entities in id order, for each the combinations in the order of positions, none for an entity
that lacks a selected value. -/
theorem execute_eq_rowsAsked {s : Store} {q : Query} (built : s.Built) (h : s.schema.Answers q)
    (hlimit : q.limit = none) (hcolumns : q.columns.Nodup)
    (htakes : ∀ l ∈ q.condition.leaves, l.operator.Takes l.value) :
    (s.execute q).1 = .ok (s.rowsAsked q) ∧
    ((s.entitiesOf q.entityType).values.Pairwise fun e e' => e.id.text < e'.id.text) ∧
    (∀ sizes, (positions sizes).Pairwise (List.Lex (· < ·)) ∧
      ∀ p, p ∈ positions sizes ↔ List.Forall₂ (· < ·) p sizes) ∧
    ∀ e ∈ (s.entitiesOf q.entityType).values, ∀ name ∈ q.columns,
      s.columnValues q.entityType e name = [] → ∀ row ∈ s.rowsAsked q, row.entityId ≠ e.id :=
  ⟨rows_eq_rowsAsked h hlimit hcolumns htakes, built.consistent.values_sorted q.entityType,
    fun sizes => ⟨positions_sorted sizes, fun _ => mem_positions_iff⟩,
    fun _ he _ hname hnone => not_mem_rowsAsked built he hname hnone⟩

def nameStore : Store :=
  let node : EntityType :=
    { id := "node", keys := { bundle := some "type", label := some "title" } }
  let fox : Entity := { entityType := "node", bundle := "animal", id := ⟨"1"⟩, label := some "Fox" }
  let owl : Entity := { entityType := "node", bundle := "animal", id := ⟨"2"⟩, label := some "Owl" }
  ((((({} : Store).mapSchema (·.insertEntityType node)).mapSchema
    (·.insertField "node" "animal" { name := "name", fieldType := "string" })).mapSchema
    (·.insertField "node" "animal" { name := "code", fieldType := "integer" })).insertEntity
    ((fox.withValues "name" [.string "Vixen", .string "Reynard"]).withValues "code"
      [Json.ofNat 7, Json.ofNat 30])).insertEntity
    (owl.withValues "name" [.string "Strix"])

def nameQuery : Query where
  entityType := "node"
  condition := .and [
    .or [Condition.onColumn "name.value" .equal (.string "reynard"),
      Condition.onColumn "code.value" .notEqual (.string "7")],
    .or [Condition.onColumn "name.value" .like (.string "vix%"),
      .and [Condition.onColumn "title" .isIn (.array [.string "FOX"]), .and []]]]
  columns := ["name.value", "code.value"]

theorem execute_eq_rowsAsked_names :
    nameStore.Built ∧ nameStore.schema.Answers nameQuery ∧ nameQuery.columns.Nodup ∧
    (∀ l ∈ nameQuery.condition.leaves, l.operator.Takes l.value) ∧
    (nameStore.execute nameQuery).1.map (List.map fun r => r.values.values.map Json.text?) =
      .ok [[some "30", some "Vixen"], [some "7", some "Reynard"], [some "30", some "Reynard"]] := by
  have built : nameStore.Built :=
    .insertEntity _ (.insertEntity _ (.insertField _ _ _ (.insertField _ _ _
      (.insertEntityType _ .empty))))
  have answers : nameStore.schema.Answers nameQuery := Schema.answers_iff.2 (by decide)
  have hcolumns : nameQuery.columns.Nodup := by decide
  have htakes : ∀ l ∈ nameQuery.condition.leaves, l.operator.Takes l.value := by
    simp [nameQuery, Condition.onColumn, Condition.compare, Operator.Takes, Operator.takesList,
      Json.items?, Json.text?]
  refine ⟨built, answers, hcolumns, htakes, ?_⟩
  rw [(execute_eq_rowsAsked built answers rfl hcolumns htakes).1]
  exact congrArg Except.ok (by decide)

end Store
end SynonymLookup
