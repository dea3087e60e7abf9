import SynonymLookup.Proofs.Provider.Derived
import SynonymLookup.Proofs.Query.Restriction

/-! Providers keep to the bundle that their plugin id is read as: whatever condition they are asked,
and whatever fails on the way, what they find is of stored entities of that bundle. -/

namespace SynonymLookup

/-- A plugin id that can be read is read as the type and bundle that it was derived for. -/
def Schema.ReadsBack (s : Schema) : Prop :=
  ∀ base ∈ Registry.builtin, ∀ d ∈ base.derive s, ∀ p, PluginId.parse? d.id = some p →
    p.entityType = d.entityType ∧ p.bundle = d.bundle

theorem Schema.readsBack_of_plain {s : Store} (built : s.Built)
    (htypes : ∀ {id t}, s.schema.entityType? id = some t → '.' ∉ id.toList)
    (hbundles : ∀ {entityType b}, b ∈ s.schema.bundlesOf entityType → '.' ∉ b.id.toList) :
    s.schema.ReadsBack := by
  intro base hbase d hd p hp
  obtain ⟨eligible, hderive⟩ := Registry.derives_builtin hbase
  rw [hderive] at hd
  obtain ⟨t, ht, b, hb, f, -, -, rfl⟩ := Schema.mem_deriveFields hd
  obtain ⟨id, hid⟩ := KeyMap.mem_values_iff.1 ht
  have hsame : t.id = id := built.consistent.entityType_id hid
  exact PluginId.of_parse?_make (Registry.colon_notMem_builtin hbase) (hsame ▸ htypes hid)
    (hbundles hb) hp

/-- A step over the backend that finds only what is covered, and does no more than count a query. -/
def Backend.FindsIn (b : Backend) (entityType bundle : String)
    (step : Step Backend (List SynonymResult)) : Prop :=
  ((step.on b).2 = b ∨ (step.on b).2 = b.counted) ∧
    ∀ found, (step.on b).1 = .ok found → ∀ x ∈ found, b.store.Covers entityType [bundle] x.entityId

namespace Backend.FindsIn

variable {b : Backend} {entityType bundle : String}

theorem congr {step step' : Step Backend (List SynonymResult)} (h : step.on b = step'.on b)
    (hfinds : b.FindsIn entityType bundle step') : b.FindsIn entityType bundle step := by
  unfold FindsIn at hfinds ⊢
  rwa [h]

theorem of_error {step : Step Backend (List SynonymResult)} {e : LookupError}
    (h : step.on b = (.error e, b)) : b.FindsIn entityType bundle step := by
  refine ⟨.inl (by rw [h]), fun found hfound => ?_⟩
  rw [h] at hfound
  cases hfound

theorem of_nil {step : Step Backend (List SynonymResult)} (h : step.on b = (.ok [], b)) :
    b.FindsIn entityType bundle step := by
  refine ⟨.inl (by rw [h]), fun found hfound x hx => ?_⟩
  rw [h] at hfound
  cases hfound
  cases hx

end Backend.FindsIn

namespace ProviderDefinition

variable {b : Backend} {d : ProviderDefinition} {t : EntityType}

def queried (d : ProviderDefinition) (t : EntityType) (column : String) (c : Condition) :
    Step Backend (List SynonymResult) := do
  let rows ← Backend.execute
    { entityType := t.id, condition := d.bound t column c, columns := [column] }
  return rows.filterMap (resultOf? column)

theorem testsBundle_bound (d : ProviderDefinition) (t : EntityType) (column : String)
    (c : Condition) : Store.TestsBundle t .equal (.string d.bundle) (d.bound t column c) := by
  intro key hkey
  unfold bound
  rw [hkey]
  exact ⟨_, rfl, List.mem_cons_self⟩

theorem findsIn_queried (built : b.store.Built) (ht : b.schema.entityType? d.entityType = some t)
    (column : String) (c : Condition) :
    b.FindsIn d.entityType d.bundle (d.queried t column c) := by
  let q : Query := { entityType := t.id, condition := d.bound t column c, columns := [column] }
  have hid : t.id = d.entityType := built.consistent.entityType_id ht
  rcases Backend.execute_cases q b with ⟨e, hexecute⟩ | hexecute
  · exact .of_error (Step.on_bind_error hexecute)
  cases hrows : b.store.rows q with
  | error e =>
    rw [hrows] at hexecute
    have herror : (d.queried t column c).on b = (.error (.storage e), b.counted) :=
      Step.on_bind_error hexecute
    refine ⟨.inr (by rw [herror]), fun found hfound => ?_⟩
    rw [herror] at hfound
    cases hfound
  | ok rows =>
    rw [hrows] at hexecute
    have hok : (d.queried t column c).on b = (.ok (rows.filterMap (resultOf? column)), b.counted) :=
      Step.on_bind_ok hexecute
    refine ⟨.inr (by rw [hok]), fun found hfound x hx => ?_⟩
    rw [hok] at hfound
    cases hfound
    obtain ⟨row, hrow, hresult⟩ := List.mem_filterMap.1 hx
    obtain ⟨text, -, rfl⟩ := Option.map_eq_some_iff.1 hresult
    have hcovers := Store.covers_of_mem_rows built (q := q) (t := t) (by rw [← ht, ← hid]; rfl)
      (Evaluation.names_equal d.bundle) (testsBundle_bound d t column c) hrows row hrow
    rwa [show q.entityType = d.entityType from hid] at hcovers

/-- The search in a column keeps to the bundle of the definition. -/
theorem findsIn (d : ProviderDefinition) (built : b.store.Built) (column : String) (c : Condition) :
    b.FindsIn d.entityType d.bundle (d.findIn column c) := by
  have hstart : (d.findIn column c).on b = _ := Step.on_bind_ok (Step.on_get b)
  cases ht : b.schema.entityType? d.entityType with
  | none =>
    rw [ht] at hstart
    exact .of_error hstart
  | some t =>
    rw [ht] at hstart
    dsimp only at hstart
    cases hlocate : b.locate t.id column with
    | error e =>
      rw [hlocate] at hstart
      cases e with
      | unknownColumn entityType name => exact .of_nil hstart
      | _ => exact .of_error hstart
    | ok place =>
      rw [hlocate] at hstart
      exact .congr hstart (findsIn_queried built ht column c)

end ProviderDefinition

/-- A provider that is made for a plugin id keeps to a bundle, the one that the id is read as. -/
theorem Registry.findsIn_of_create {b : Backend} (built : b.store.Built)
    (readsBack : b.schema.ReadsBack) {plugin : String} {settings : ProviderConfiguration}
    {p : Provider} (hp : Registry.builtin.create b.schema plugin settings = .ok p) {q : PluginId}
    (hq : PluginId.parse? plugin = some q) (c : Condition) :
    b.FindsIn q.entityType q.bundle (p.find c) := by
  obtain ⟨base, hbase, d, hd, rfl, rfl⟩ := Registry.create_eq_ok hp
  obtain ⟨htype, hbundle⟩ := readsBack base hbase d hd q hq
  rw [htype, hbundle]
  rcases Registry.mem_builtin.1 hbase with rfl | rfl | rfl
  · exact d.findsIn built _ c
  · exact d.findsIn built _ c
  · have hfind : (ReferenceProvider.find d c).on b = _ := Step.on_bind_ok (Step.on_get b)
    cases hcolumn : ReferenceProvider.column? b d with
    | none =>
      rw [hcolumn] at hfind
      exact .of_nil hfind
    | some column =>
      rw [hcolumn] at hfind
      exact .congr hfind (d.findsIn built column c)

end SynonymLookup
