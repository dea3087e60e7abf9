import SynonymLookup.Proofs.Lookup.ByName
import SynonymLookup.Proofs.Lookup.Contribution
import SynonymLookup.Proofs.Query.Reference

/-! Lookups that always answer. Where the settings can be read, no configuration can make a search
fail, whatever the schema, the names in it and the data: a column that leads nowhere finds nothing.
All that lookups refuse is an unknown type. -/

namespace SynonymLookup
namespace Service

open Repository

/-- What lookups need in order to answer: built-in providers, data that came about by edits,
settings that read as configurations, and queries and settings in service. -/
structure Ready (s : Service) : Prop where
  registry : s.registry = Registry.builtin
  built : s.store.Built
  execute : s.Up .execute
  list : s.Up .configList
  get : s.Up .configGet
  wellFormed : s.WellFormed

variable {s : Service}

theorem Ready.loadFor_fst (h : s.Ready) (entityType bundle : String) :
    ((loadFor entityType bundle).on s).1 = .ok (s.configurationsOf entityType bundle) := by
  obtain ⟨list, hlist⟩ := exists_loadFor h.wellFormed h.list h.get entityType bundle
  rw [configurationsOf, hlist]
  rfl

/-- The answer to a lookup of a type: the error of an unknown type, some result for any other. -/
def AnswersFor {α : Type} (s : Service) (entityType : String) (r : Except LookupError α) : Prop :=
  match s.schema.entityType? entityType with
  | none => r = .error (.unknownEntityType entityType)
  | some _ => ∃ a, r = .ok a

end Service

namespace Store

variable {s : Store} {t : EntityType} {entityType : String}

theorem exists_rows_of_keys (ht : s.schema.entityType? entityType = some t) {condition : Condition}
    (hkeys : ∀ l ∈ condition.leaves, ∃ key, l.column = .named key ∧ t.isKey key = true)
    (htakes : ∀ l ∈ condition.leaves, l.operator.Takes l.value) :
    ∃ rows, s.rows { entityType, condition } = .ok rows := by
  have hcolumn {c : Column} (hc : c ∈ condition.columns) :
      ∃ key, c = .named key ∧ t.isKey key = true := by
    rw [ConditionOf.columns_eq_leaves, List.mem_map] at hc
    obtain ⟨l, hl, rfl⟩ := hc
    exact hkeys l hl
  have answers : s.schema.Answers { entityType, condition } :=
    { resolved := by
        refine List.find?_eq_none.2 fun c hc => ?_
        obtain ⟨key, rfl, -⟩ := hcolumn hc
        exact Bool.false_ne_true
      known := by rw [ht]; rfl
      placed := by
        intro name hname
        rw [Query.names, List.append_nil, List.mem_filterMap] at hname
        obtain ⟨c, hc, hcname⟩ := hname
        obtain ⟨key, rfl, hkey⟩ := hcolumn hc
        rw [← Option.some.inj hcname]
        exact ⟨.key key, by simp only [Schema.locate, ht, hkey, if_true]; rfl⟩ }
  exact ⟨_, rows_eq_rowsAsked answers rfl List.nodup_nil htakes⟩

end Store

namespace Lookup

open Service Repository

variable {s : Service} {entityType : String} {condition : Condition}

theorem loadForEach_of_loadFor {listOf : String → List Configuration} {bundles : List String}
    (h : ∀ bundle ∈ bundles, ((loadFor entityType bundle).on s).1 = .ok (listOf bundle)) :
    ((loadForEach entityType bundles).on s).1 = .ok (bundles.flatMap listOf) := by
  induction bundles with
  | nil => rfl
  | cons bundle rest ih =>
    have hfirst := h bundle List.mem_cons_self
    have hlater := ih fun b hb => h b (List.mem_cons_of_mem _ hb)
    have hrest : Step.Steady s.Alike (loadForEach entityType rest) :=
      steady_loadForEach entityType rest
    rw [loadForEach, (steady_loadFor entityType bundle).on_bind_fst .refl
      (fun _ => hrest.bind fun _ => .pure _) hfirst,
      hrest.on_bind_fst .refl (fun _ => .pure _) hlater, List.flatMap_cons]
    rfl

theorem loadForEach_fst (h : s.Ready) (entityType : String) (bundles : List String) :
    ((loadForEach entityType bundles).on s).1 =
      .ok (bundles.flatMap (s.configurationsOf entityType)) :=
  loadForEach_of_loadFor fun bundle _ => h.loadFor_fst entityType bundle

theorem observing_fst {step : Action (List SynonymResult)} {found : List SynonymResult}
    (h : (step.on s).1 = .ok found) : ((findInEach.observing step).on s).1 = .ok (.ok found) := by
  have hdone : (do return .ok (← step) : Action (Except LookupError (List SynonymResult))).on s =
      (.ok (.ok found), (step.on s).2) := Step.on_bind_ok (Step.on_eq_of_fst h)
  rw [findInEach.observing, Step.on_tryCatch, hdone]

/-- Every configuration contributes, none fails. -/
theorem findInEach_fst (h : s.Ready) (hc : condition.Askable) (list : List Configuration) :
    ((findInEach condition list).on s).1 =
      .ok (list.map fun c => .ok (contribution s condition c)) := by
  induction list with
  | nil => rfl
  | cons c rest ih =>
    have hrest : Step.Steady s.Alike (findInEach condition rest) :=
      steady_findInEach h.registry condition rest
    have hobserving : Step.Steady s.Alike (findInEach.observing (findIn c condition)) :=
      ((steady_findIn h.registry condition c).bind fun _ => .pure _).tryCatch fun _ => .pure _
    rw [findInEach, hobserving.on_bind_fst .refl (fun _ => hrest.bind fun _ => .pure _)
      (observing_fst (findIn_fst h.registry h.built hc c)),
        hrest.on_bind_fst .refl (fun _ => .pure _) ih]
    rfl

def covered (s : Service) (entityType : String) (bundle : Option String) : List String :=
  bundle.elim (bundles s.schema entityType) fun b => [b]

theorem findSynonyms_eq (condition : Condition) (entityType : String) (bundle : Option String) :
    findSynonyms condition entityType bundle = (do
      let _ ← Service.entityType entityType
      let s ← get
      let configurations ← loadForEach entityType (covered s entityType bundle)
      ofExcept (joined (← findInEach condition configurations))) := by
  cases bundle <;> rfl

theorem findSynonyms_fst (h : s.Ready) (hc : condition.Askable) {t : EntityType}
    (ht : s.schema.entityType? entityType = some t) (bundle : Option String) :
    ((findSynonyms condition entityType bundle).on s).1 =
      .ok (((covered s entityType bundle).flatMap (s.configurationsOf entityType)).flatMap
        (contribution s condition)) := by
  have hsearch (list : List Configuration) : Step.Steady s.Alike (do
      ofExcept (joined (← findInEach condition list)) : Action (List SynonymResult)) :=
    (steady_findInEach h.registry condition list).bind fun _ => .ofExcept _
  rw [findSynonyms_eq, Step.on_bind_ok (entityType_of_some ht), Step.on_bind_ok (Step.on_get s),
    (steady_loadForEach entityType _).on_bind_fst .refl hsearch (loadForEach_fst h entityType _),
    (steady_findInEach h.registry condition _).on_bind_fst .refl (fun _ => .ofExcept _)
      (findInEach_fst h hc _), Step.on_ofExcept]
  have hjoined := joined_ok
    (((covered s entityType bundle).flatMap (s.configurationsOf entityType)).map
      (contribution s condition))
  rw [List.map_map] at hjoined
  exact hjoined.trans (congrArg Except.ok (List.flatMap_def ..).symm)

/-- The columns that a query for labels asks for are keys of the type. -/
theorem labelCondition_keys {t : EntityType} {label : String} (hlabel : t.labelColumn = some label)
    (name : String) (within : Option (Operator × Json)) :
    ∀ l ∈ (labelCondition t label name within).leaves,
      ∃ key, l.column = .named key ∧ t.isKey key = true := by
  have hnamed : t.isKey label = true := by simp [EntityType.isKey, hlabel]
  unfold labelCondition
  split
  · rename_i key operator value hkey
    have hbundle : t.isKey key = true := by simp [EntityType.isKey, hkey]
    simp [Condition.onColumn, Condition.compare, hnamed, hbundle]
  · simp [Condition.onColumn, Condition.compare, hnamed]

theorem labelCondition_takes (t : EntityType) (label name : String)
    {within : Option (Operator × Json)} (h : ∀ x ∈ within, x.1.Takes x.2) :
    ∀ l ∈ (labelCondition t label name within).leaves, l.operator.Takes l.value := by
  have hequal (value : Json) : Operator.equal.Takes value := by
    simp [Operator.Takes, Operator.takesList]
  unfold labelCondition
  split
  · rename_i key operator value hkey
    have hwithin : operator.Takes value := h (operator, value) rfl
    simp [Condition.onColumn, Condition.compare, hequal, hwithin]
  · simp [Condition.onColumn, Condition.compare, hequal]

theorem exists_labelled (h : s.Up .execute) {t : EntityType}
    (ht : s.schema.entityType? entityType = some t) (name : String)
    {within : Option (Operator × Json)} (hwithin : ∀ x ∈ within, x.1.Takes x.2) :
    ∃ ids, ((labelled t entityType name within).on s).1 = .ok ids := by
  cases hlabel : t.labelColumn with
  | none => exact ⟨[], by simp only [labelled, hlabel, Step.on_pure]⟩
  | some label =>
    obtain ⟨rows, hrows⟩ := Store.exists_rows_of_keys ht (labelCondition_keys hlabel name within)
      (labelCondition_takes t label name hwithin)
    refine ⟨rows.map (·.entityId), ?_⟩
    simp only [labelled, hlabel]
    rw [Step.on_bind_ok (onBackend_on (Backend.execute_on h hrows))]
    rfl

theorem answersFor_findSynonyms (h : s.Ready) (hc : condition.Askable) (entityType : String)
    (bundle : Option String) :
    s.AnswersFor entityType ((findSynonyms condition entityType bundle).on s).1 := by
  unfold AnswersFor
  split
  · rename_i hunknown
    rw [findSynonyms, Step.on_bind_error (entityType_of_none hunknown)]
  · rename_i t ht
    exact ⟨_, findSynonyms_fst h hc ht bundle⟩

theorem answersFor_byName (h : s.Ready) (entityType name : String) (bundle : Option String) :
    s.AnswersFor entityType ((byName entityType name bundle).on s).1 := by
  unfold AnswersFor
  split
  · rename_i hunknown
    rw [byName, Step.on_bind_error (entityType_of_none hunknown)]
  · rename_i t ht
    have hwithin : ∀ x ∈ bundle.map fun b => (Operator.equal, Json.string b), x.1.Takes x.2 := by
      intro x hx
      obtain ⟨b, -, rfl⟩ := Option.mem_map.1 hx
      simp [Operator.Takes, Operator.takesList]
    have hsearch : Step.Steady s.Alike
        (findSynonyms (Condition.onSynonym .equal (.string name)) entityType bundle) :=
      steady_findSynonyms h.registry _ entityType bundle
    obtain ⟨ids, hids⟩ := exists_labelled h.execute ht name hwithin
    rw [byName, Step.on_bind_ok (entityType_of_some ht),
      (steady_labelled t entityType name _).on_bind_fst .refl
        (fun _ => hsearch.bind fun _ => .pure _) hids,
      hsearch.on_bind_fst .refl (fun _ => .pure _)
        (findSynonyms_fst h (Condition.askable_onSynonym name) ht bundle)]
    exact ⟨_, rfl⟩

end Lookup
end SynonymLookup
