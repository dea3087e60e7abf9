import SynonymLookup.Proofs.Evaluation.Verdict
import SynonymLookup.Proofs.Provider.Search
import SynonymLookup.Proofs.Query.Preparation

/-! Queries that are restricted to bundles by a test of the bundle key beside what else they ask
for: their rows are of stored entities of those bundles, in any case of letters. -/

namespace SynonymLookup

/-- An id of a stored entity of one of the bundles. Where the type has no key for bundles, or its id
key stands in for it, every bundle will do. -/
def Store.Covers (s : Store) (entityType : String) (bundles : List String) (id : EntityId) : Prop :=
  ∃ t e, s.schema.entityType? entityType = some t ∧ s.load entityType id = some e ∧
    ∀ key, t.keys.bundle = some key → key ≠ t.keys.id →
      ∃ bundle ∈ bundles, Text.lowercase e.bundle = Text.lowercase bundle

theorem Store.Covers.mono {s : Store} {entityType : String} {bundles bundles' : List String}
    {id : EntityId} (h : s.Covers entityType bundles id) (hsub : ∀ b ∈ bundles, b ∈ bundles') :
    s.Covers entityType bundles' id := by
  obtain ⟨t, e, ht, he, hbundle⟩ := h
  refine ⟨t, e, ht, he, fun key hkey hid => ?_⟩
  obtain ⟨bundle, hmem, hsame⟩ := hbundle key hkey hid
  exact ⟨bundle, hsub bundle hmem, hsame⟩

namespace Evaluation

def Names (operator : Operator) (value : Json) (names : List String) : Prop :=
  ∀ text, evaluate operator [.string text] value = .ok true →
    ∃ name ∈ names, Text.lowercase text = Text.lowercase name

theorem eq_of_text?_string {s text : String} (h : (Json.string s).text? = some text) :
    text = s := by
  unfold Json.text? at h
  dsimp only at h
  split at h
  · cases h
  · exact (Option.some.inj h).symm

theorem lowercase_of_equalsText {text name : String} (h : equalsText text (.string name) = true) :
    Text.lowercase text = Text.lowercase name := by
  unfold equalsText at h
  cases hname : (Json.string name).text? with
  | none =>
    rw [hname] at h
    cases h
  | some right =>
    rw [hname, eq_of_text?_string hname] at h
    exact Text.sameIgnoringCase_iff.1 h

theorem admits_of_evaluate {operator : Operator} {test : Test} {value : Json} {text : String}
    (hdemand : operator.demand = .some test) (htakes : operator.Takes value)
    (h : evaluate operator [.string text] value = .ok true) : test.admits value text = true := by
  rw [evaluate_of_takes htakes, Operator.verdict, hdemand] at h
  have hany : (Json.string text).text?.any (test.admits value) = true := by
    simpa [Test.admitsAny] using h
  obtain ⟨left, hleft, hadmits⟩ := (Option.any_eq_true _ _).1 hany
  rwa [eq_of_text?_string hleft] at hadmits

theorem names_equal (name : String) : Names .equal (.string name) [name] := by
  intro text h
  have hadmits := admits_of_evaluate rfl ⟨by simp [Operator.takesList], by simp⟩ h
  exact ⟨name, List.mem_singleton_self name, lowercase_of_equalsText hadmits⟩

theorem names_isIn (names : List String) : Names .isIn (Json.ofStrings names) names := by
  intro text h
  have hadmits := admits_of_evaluate rfl ⟨by simp [Json.ofStrings, Json.items?], by simp⟩ h
  obtain ⟨v, hv, hequals⟩ := List.any_eq_true.1 hadmits
  obtain ⟨name, hname, rfl⟩ := List.mem_map.1 hv
  exact ⟨name, hname, lowercase_of_equalsText hequals⟩

end Evaluation

namespace Store

variable {s : Store} {entityType : String} {e : Entity}

theorem mem_of_foldl_bindings {column : String → List Json} {names : List String}
    {found : List (KeyMap Json)}
    (hfound : ∀ b ∈ found, ∀ name v, b.get? name = some v → v ∈ column name) :
    ∀ b ∈ names.foldl (fun found name => found.flatMap fun b =>
      (column name).map fun v => b.insert name v) found,
      ∀ name v, b.get? name = some v → v ∈ column name := by
  induction names generalizing found with
  | nil => exact hfound
  | cons selected rest ih =>
    refine ih fun b hb name v hv => ?_
    obtain ⟨before, hbefore, hb⟩ := List.mem_flatMap.1 hb
    obtain ⟨value, hvalue, rfl⟩ := List.mem_map.1 hb
    rw [KeyMap.get?_insert] at hv
    by_cases hname : selected = name
    · subst hname
      rw [if_pos rfl] at hv
      cases hv
      exact hvalue
    · rw [if_neg hname] at hv
      exact hfound before hbefore name v hv

/-- A column with one value shows a leaf that value, whether or not it is selected. -/
theorem seen_of_single {names : List String} {b : KeyMap Json}
    (hb : b ∈ s.bindingsOf entityType e names) {name : String} {v : Json}
    (h : s.columnValues entityType e name = [v]) : s.seen entityType e b (.named name) = [v] := by
  unfold seen
  dsimp only
  cases hget : b.get? name with
  | none => exact h
  | some w =>
    have hempty : ∀ b ∈ [KeyMap.empty], ∀ name v, b.get? name = some v →
        v ∈ s.columnValues entityType e name := by
      intro b hb name v hv
      rw [List.mem_singleton.1 hb] at hv
      cases hv
    have hmem := mem_of_foldl_bindings hempty b hb name w hget
    rw [h, List.mem_singleton] at hmem
    rw [hmem]

theorem columnValues_bundle {t : EntityType} {key : String} (built : s.Built)
    (ht : s.schema.entityType? entityType = some t) (he : e ∈ (s.entitiesOf entityType).values)
    (hkey : t.keys.bundle = some key) (hid : key ≠ t.keys.id) :
    s.columnValues entityType e key = [.string e.bundle] := by
  have htype : e.entityType = entityType :=
    (built.consistent.id_of_load (built.consistent.load_of_mem he)).1
  have hlocate : s.schema.locate entityType key = .ok (.key key) := by
    unfold Schema.locate
    simp only [ht, EntityType.isKey_bundle hkey]
    rfl
  rw [columnValues, hlocate]
  exact valuesAt_bundle (htype ▸ ht) hkey hid

theorem exists_of_mem_rows {q : Query} {rows : List Row} (h : s.rows q = .ok rows) {row : Row}
    (hrow : row ∈ rows) : ∃ e ∈ (s.entitiesOf q.entityType).values,
      ∃ b ∈ s.bindingsOf q.entityType e q.columns, row = ⟨e.id, b⟩ ∧
        q.condition.holds (s.leafTest q.entityType e b) = .ok true := by
  rw [rows_of_answers (answers_of_rows h)] at h
  obtain ⟨x, hx, rfl, htest⟩ := mem_collectRows h hrow
  obtain ⟨e, he, hx⟩ := List.mem_flatMap.1 hx
  obtain ⟨b, hb, rfl⟩ := List.mem_map.1 hx
  exact ⟨e, he, b, hb, rfl, htest⟩

/-- The condition is a conjunction with a test of the bundle, where the type has a
key for bundles. -/
def TestsBundle (t : EntityType) (operator : Operator) (value : Json) (c : Condition) : Prop :=
  ∀ key, t.keys.bundle = some key → ∃ children, c = .and children ∧
    Condition.onColumn key operator value ∈ children

/-- A query that tests the bundle has rows of entities of the bundles that the test names. -/
theorem covers_of_mem_rows {q : Query} {t : EntityType} {operator : Operator} {value : Json}
    {bundles : List String} {rows : List Row} (built : s.Built)
    (ht : s.schema.entityType? q.entityType = some t)
    (hnames : Evaluation.Names operator value bundles)
    (hcondition : TestsBundle t operator value q.condition) (h : s.rows q = .ok rows) :
    ∀ row ∈ rows, s.Covers q.entityType bundles row.entityId := by
  intro row hrow
  -- the test of the bundle is one of the conjuncts, and sees the bundle alone if it is selected
  obtain ⟨e, he, b, hb, rfl, hholds⟩ := exists_of_mem_rows h hrow
  refine ⟨t, e, ht, built.consistent.load_of_mem he, fun key hkey hid => ?_⟩
  obtain ⟨children, hand, hmem⟩ := hcondition key hkey
  rw [hand, ConditionOf.holds_and] at hholds
  have hleaf := ConditionOf.holds_of_runThrough hholds _ hmem
  rw [Condition.onColumn, Condition.compare, ConditionOf.holds, leafTest,
    seen_of_single hb (columnValues_bundle built ht he hkey hid)] at hleaf
  exact hnames e.bundle hleaf

end Store
end SynonymLookup
