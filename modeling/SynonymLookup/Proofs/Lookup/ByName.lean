import SynonymLookup.Proofs.Firsts
import SynonymLookup.Proofs.Lookup.Alike
import SynonymLookup.Proofs.Lookup.Bundle
import SynonymLookup.Proofs.Lookup.RoundTrip

/-! Entities by name: the labels are asked first, then every configuration of every bundle, and each
entity is given once. What is found is what is labelled by the name or has it for a synonym. -/

namespace SynonymLookup

def Entity.isNamed (t : EntityType) (name : String) (e : Entity) : Bool :=
  t.labelColumn.isSome && e.label.any fun label => Text.sameIgnoringCase label name

theorem EntityType.keyValue_label {t : EntityType} {label : String} (hid : label ≠ t.keys.id)
    (hbundle : t.keys.bundle ≠ some label) (e : Entity) :
    t.keyValue e label = e.label.map .string := by
  rw [keyValue, if_neg hid, if_neg hbundle]

namespace Store

variable {s : Store} {t : EntityType} {entityType name : String}

def idsNamed (s : Store) (t : EntityType) (entityType name : String) : List EntityId :=
  ((s.entitiesOf entityType).values.filter (Entity.isNamed t name)).map (·.id)

theorem Consistent.mem_idsNamed_iff (h : s.Consistent) {id : EntityId} :
    id ∈ s.idsNamed t entityType name ↔
      ∃ e, s.load entityType id = some e ∧ e.isNamed t name = true := by
  simp only [idsNamed, List.mem_map, List.mem_filter]
  constructor
  · rintro ⟨e, ⟨he, hnamed⟩, rfl⟩
    exact ⟨e, h.load_of_mem he, hnamed⟩
  · rintro ⟨e, he, hnamed⟩
    exact ⟨e, ⟨KeyMap.mem_values_iff.2 ⟨_, he⟩, hnamed⟩, (h.id_of_load he).2⟩

theorem Consistent.idsNamed_sorted (h : s.Consistent) :
    (s.idsNamed t entityType name).Pairwise fun id id' => id.text < id'.text := by
  rw [idsNamed, List.pairwise_map]
  exact (h.values_sorted entityType).filter _

theorem leafTruth_label (h : s.Consistent) (ht : s.schema.entityType? entityType = some t)
    {label : String} (hlabel : t.labelColumn = some label) (hid : label ≠ t.keys.id)
    (hbundle : t.keys.bundle ≠ some label) (hname : name ≠ "") {e : Entity}
    (he : e ∈ (s.entitiesOf entityType).values) :
    s.leafTruth e .empty ⟨⟨label, .key label⟩, .equal, .string name⟩ = e.isNamed t name := by
  have htype : e.entityType = entityType := (h.id_of_load (h.load_of_mem he)).1
  have hvalues : s.valuesSeen e .empty ⟨label, .key label⟩ = (e.label.map Json.string).toList := by
    simp only [valuesSeen, KeyMap.get?_empty, valuesAt, htype, ht, Option.bind_some,
      EntityType.keyValue_label hid hbundle]
  have hsome : t.labelColumn.isSome = true := by rw [hlabel]; rfl
  rw [leafTruth, hvalues, Entity.isNamed, hsome, Bool.true_and]
  cases e.label with
  | none => rfl
  | some text => exact Evaluation.accepts_equal hname text

theorem candidates_nil (s : Store) (entityType : String) :
    s.candidates entityType [] = (s.entitiesOf entityType).values.map fun e => (e, .empty) :=
  List.map_eq_flatMap.symm

theorem rows_label (h : s.Consistent) (ht : s.schema.entityType? entityType = some t)
    {label : String} (hlabel : t.labelColumn = some label) (hid : label ≠ t.keys.id)
    (hbundle : t.keys.bundle ≠ some label) (hname : name ≠ "") :
    ∃ rows, s.rows { entityType, condition := Condition.onColumn label .equal (.string name) } =
      .ok rows ∧ rows.map (·.entityId) = s.idsNamed t entityType name := by
  have hkey : t.isKey label = true := by simp [EntityType.isKey, hlabel]
  have hknown : (s.schema.entityType? entityType).isSome := by rw [ht]; rfl
  have hplace : ∀ c ∈ (Condition.onColumn label .equal (.string name)).columns,
      s.targetOf entityType c = .ok ⟨label, .key label⟩ := by
    intro c hc
    simp only [Condition.onColumn, Condition.compare, ConditionOf.columns_leaf,
      List.mem_singleton] at hc
    rw [hc]
    exact targetOf_key ht hkey
  have htakes : ∀ l ∈ (Condition.onColumn label .equal (.string name)).leaves,
      l.operator.Takes l.value := by
    simp [Condition.onColumn, Condition.compare, Operator.Takes, Operator.takesList]
  refine ⟨_, rows_eq rfl rfl hknown hplace rfl htakes, ?_⟩
  rw [candidates_nil, List.filter_map, List.map_map, List.map_map, idsNamed]
  refine congrArg _ (List.filter_congr fun e he => ?_)
  have hleaf := leafTruth_label h ht hlabel hid hbundle hname he
  simpa only [Function.comp_apply, Condition.onColumn, Condition.compare, ConditionOf.map_leaf,
    ConditionOf.meets_leaf] using hleaf

end Store

namespace Lookup

open Service Repository

theorem distinct_eq_firstsBy {α : Type} [BEq α] (l : List α) : distinct l = firstsBy id [] l := by
  simp only [distinct, List.contains_eq_any_beq]
  exact reverse_foldl_eq_firstsBy l

theorem nodup_distinct {α : Type} [BEq α] [LawfulBEq α] (l : List α) : (distinct l).Nodup := by
  have hfirsts : ((firstsBy id [] l).map id).Nodup := nodup_firstsBy l
  rwa [distinct_eq_firstsBy, ← List.map_id (firstsBy _ _ _)]

theorem distinct_of_nodup {α : Type} [BEq α] [LawfulBEq α] {l : List α} (nodup : l.Nodup) :
    distinct l = l := by
  rw [distinct_eq_firstsBy]
  exact firstsBy_of_nodup (by rwa [List.map_id]) fun _ _ => List.not_mem_nil

theorem distinct_cons {α : Type} [BEq α] [LawfulBEq α] {head : α} {l : List α} (nodup : l.Nodup) :
    distinct (head :: l) = head :: l.filter (· != head) := by
  have hkept : ∀ a ∈ l, (a != head) = false → id a ∈ [head] := fun a _ ha => by simpa using ha
  have hnew : ∀ a ∈ l.filter (· != head), id a ∉ [head] := fun a ha => by
    simpa using (List.mem_filter.1 ha).2
  have hfilter : ((l.filter (· != head)).map id).Nodup := by
    rw [List.map_id]
    exact nodup.filter _
  rw [distinct_eq_firstsBy, firstsBy_cons_of_not_mem List.not_mem_nil, List.nil_append,
    show [id head] = [head] from rfl, ← firstsBy_filter hkept, firstsBy_of_nodup hfilter hnew]

theorem find?_distinct {α : Type} [BEq α] [LawfulBEq α] (test : α → Bool) (l : List α) :
    (distinct l).find? test = l.find? test := by
  rw [distinct_eq_firstsBy]
  exact find?_firstsBy (fun _ _ h => congrArg test h) fun _ _ h => absurd h List.not_mem_nil

variable {s s' : Service} {t : EntityType} {entityType name : String}

/-- What lookups of a type count on beside a searchable store: every stored entity of a known type
is of a bundle that the type reports, and no two bundles that it reports differ in case only. -/
structure Reported (s : Service) : Prop where
  bundle : ∀ {entityType id e}, (s.schema.entityType? entityType).isSome →
    s.store.load entityType id = some e → e.bundle ∈ bundles s.schema entityType
  case : ∀ {entityType b b'}, b ∈ bundles s.schema entityType → b' ∈ bundles s.schema entityType →
    Text.lowercase b = Text.lowercase b' → b = b'

theorem bundles_of_bundleless (ht : s.schema.entityType? entityType = some t)
    (hnone : t.keys.bundle = none) : bundles s.schema entityType = [t.id] := by
  have hbundles : s.schema.bundlesOf entityType = [⟨t.id, t.label⟩] := by
    simp only [Schema.bundlesOf, ht, EntityType.hasBundles, hnone, Option.isSome_none,
      Bool.false_eq_true, if_false]
  simp only [bundles, Schema.bundleIds, hbundles, List.map_cons, List.map_nil]

/-- A reported bundle that covers an entity is the entity's own. -/
theorem Reported.bundle_eq (h : Reported s) (ht : s.schema.entityType? entityType = some t)
    {id : EntityId} {e : Entity} (he : s.store.load entityType id = some e) {bundle : String}
    (hbundle : bundle ∈ bundles s.schema entityType)
    (hcovers : t.keys.bundle = none ∨ Text.sameIgnoringCase e.bundle bundle = true) :
    bundle = e.bundle := by
  have hown : e.bundle ∈ bundles s.schema entityType := h.bundle (by rw [ht]; rfl) he
  rcases hcovers with hnone | hsame
  · rw [bundles_of_bundleless ht hnone, List.mem_singleton] at hbundle hown
    rw [hbundle, hown]
  · exact h.case hbundle hown (Text.sameIgnoringCase_iff.1 hsame).symm

theorem steady_labelled (t : EntityType) (entityType name : String)
    (within : Option (Operator × Json)) :
    Step.Steady s.Alike (labelled t entityType name within) := by
  cases hlabel : t.labelColumn with
  | none => simpa only [labelled, hlabel] using Step.Steady.pure []
  | some label =>
    simp only [labelled, hlabel]
    exact (steady_onBackend (Backend.steady_execute _)).bind fun _ => .pure _

theorem labelled_fst (h : s.Searchable) (ht : s.schema.entityType? entityType = some t)
    (hname : name ≠ "") :
    ((labelled t entityType name none).on s).1 = .ok (s.store.idsNamed t entityType name) := by
  cases hlabel : t.labelColumn with
  | none =>
    have hnobody : s.store.idsNamed t entityType name = [] := by
      simp [Store.idsNamed, Entity.isNamed, hlabel]
    simp only [labelled, hlabel, hnobody, Step.on_pure]
  | some label =>
    obtain ⟨hid, hbundle⟩ := h.plain.label_ne ht hlabel
    obtain ⟨rows, hrows, hids⟩ := Store.rows_label h.built.consistent ht hlabel hid hbundle hname
    have hcondition : labelCondition t label name none =
        Condition.onColumn label .equal (.string name) := by
      cases hkey : t.keys.bundle <;> simp only [labelCondition, hkey]
    have hexecute := onBackend_on (s := s) (Backend.execute_on h.up.execute hrows)
    simp only [labelled, hlabel, hcondition]
    rw [Step.on_bind_ok hexecute, Step.on_pure, hids]
    rfl

/-- A search in every bundle joins what the configurations of each find. -/
theorem found_of_findSynonyms (h : s.Searchable) {condition : Condition} (hc : condition.Askable)
    {found : List SynonymResult}
    (hfind : ((findSynonyms condition entityType none).on s).1 = .ok found) :
    ∃ list, ((loadForEach entityType (bundles s.schema entityType)).on s).1 = .ok list ∧
      found = list.flatMap (s.found condition) := by
  have hrest (list : List Configuration) : Step.Steady s.Alike (do
      ofExcept (joined (← findInEach condition list)) : Action (List SynonymResult)) :=
    (steady_findInEach h.registry condition list).bind fun _ => .ofExcept _
  obtain ⟨t, -, hsearch⟩ := (steady_entityType entityType).exists_of_on_bind_fst .refl
    (fun _ => .get (fun hu hu' => by rw [hu.schema, hu'.schema]) fun _ =>
      (steady_loadForEach entityType _).bind hrest) hfind
  rw [Step.on_bind_ok (Step.on_get s)] at hsearch
  obtain ⟨list, hlist, heach⟩ := (steady_loadForEach entityType _).exists_of_on_bind_fst .refl hrest
    hsearch
  obtain ⟨s₁, -, hfound⟩ := findInEach_on hc list h
  rw [Step.on_bind_ok hfound, Step.on_ofExcept] at heach
  have hjoined := joined_ok (list.map (s.found condition))
  rw [List.map_map] at hjoined
  refine ⟨list, hlist, ?_⟩
  have hresult : Except.ok (list.map (s.found condition)).flatten = Except.ok found :=
    hjoined.symm.trans heach
  rw [List.flatMap_def, Except.ok.inj hresult]

theorem entitySynonyms_fst {e : Entity} (htype : e.entityType = entityType)
    (h : ((loadFor entityType e.bundle).on s).1 = .ok (s.configurationsOf entityType e.bundle)) :
    ((entitySynonyms e).on s).1 =
      .ok (distinct (gathered s e (s.configurationsOf entityType e.bundle))) := by
  subst htype
  rw [entitySynonyms_of_loadFor (Step.on_eq_of_fst h)]

def idsFound (s : Service) (entityType name : String) : List EntityId :=
  (((bundles s.schema entityType).flatMap (s.configurationsOf entityType)).flatMap
    (s.found (Condition.onSynonym .equal (.string name)))).map (·.entityId)

theorem mem_idsFound_iff (used : Used s) (h : s.Searchable) (reported : Reported s)
    (ht : s.schema.entityType? entityType = some t) (hname : name ≠ "") {id : EntityId} :
    id ∈ idsFound s entityType name ↔ ∃ e, s.store.load entityType id = some e ∧
      ∃ text ∈ gathered s e (s.configurationsOf entityType e.bundle),
        Text.lowercase text = Text.lowercase name := by
  have hcontrols (bundle : String) : ∀ c ∈ s.configurationsOf entityType bundle,
      c.controls entityType bundle = true := fun _ hc =>
    controls_of_mem_configurationsOf used.cachedControl hc
  have hfound {text bundle : String} :
      ⟨id, text⟩ ∈ (s.configurationsOf entityType bundle).flatMap
        (s.found (Condition.onSynonym .equal (.string name))) ↔ _ :=
    mem_flatMap_found_iff h ht (hcontrols bundle) hname
  rw [idsFound, List.mem_map]
  constructor
  · rintro ⟨⟨id, text⟩, hr, rfl⟩
    rw [List.flatMap_assoc, List.mem_flatMap] at hr
    obtain ⟨bundle, hbundle, hr⟩ := hr
    obtain ⟨e, he, hcovers, htext, hsame⟩ := hfound.1 hr
    have hown : bundle = e.bundle := reported.bundle_eq ht he hbundle hcovers
    subst hown
    exact ⟨e, he, text, htext, Text.sameIgnoringCase_iff.1 hsame⟩
  · rintro ⟨e, he, text, htext, hsame⟩
    have hbundle : e.bundle ∈ bundles s.schema entityType := reported.bundle (by rw [ht]; rfl) he
    have hcovers : t.keys.bundle = none ∨ Text.sameIgnoringCase e.bundle e.bundle = true :=
      .inr (Text.sameIgnoringCase_iff.2 rfl)
    have hr := hfound.2 ⟨e, he, hcovers, htext, Text.sameIgnoringCase_iff.2 hsame⟩
    refine ⟨⟨id, text⟩, ?_, rfl⟩
    rw [List.flatMap_assoc, List.mem_flatMap]
    exact ⟨e.bundle, hbundle, hr⟩

theorem steady_byName (registry : s.registry = Registry.builtin) (entityType name : String)
    (bundle : Option String) : Step.Steady s.Alike (byName entityType name bundle) :=
  (steady_entityType entityType).bind fun t => (steady_labelled t entityType name _).bind fun _ =>
    (steady_findSynonyms registry _ entityType bundle).bind fun _ => .pure _

theorem exists_of_byName (registry : s.registry = Registry.builtin) {bundle : Option String}
    {ids : List EntityId} (h : ((byName entityType name bundle).on s).1 = .ok ids) :
    ∃ t byLabel found, s.schema.entityType? entityType = some t ∧
      ((labelled t entityType name (bundle.map fun b => (.equal, .string b))).on s).1 =
        .ok byLabel ∧
      ((findSynonyms (Condition.onSynonym .equal (.string name)) entityType bundle).on s).1 =
        .ok found ∧
      ids = distinct (byLabel ++ found.map (·.entityId)) := by
  have hsearch := steady_findSynonyms registry
    (Condition.onSynonym .equal (.string name)) entityType
    bundle
  have hlabelled (t : EntityType) := steady_labelled (s := s) t entityType name
    (bundle.map fun b => (.equal, .string b))
  obtain ⟨t, htype, hrest⟩ := (steady_entityType entityType).exists_of_on_bind_fst .refl
    (fun t => (hlabelled t).bind fun _ => hsearch.bind fun _ => .pure _) h
  obtain ⟨-, ht⟩ := entityType_eq_ok (Step.on_eq_of_fst htype)
  obtain ⟨byLabel, hlabels, hlater⟩ := (hlabelled t).exists_of_on_bind_fst .refl
    (fun _ => hsearch.bind fun _ => .pure _) hrest
  obtain ⟨found, hfind, hresult⟩ := hsearch.exists_of_on_bind_fst .refl (fun _ => .pure _) hlater
  cases hresult
  exact ⟨t, byLabel, found, ht, hlabels, hfind, rfl⟩

/-- A lookup by name that succeeds joins the labels with what is found in every bundle. -/
theorem eq_of_byName (h : s.Searchable) (ht : s.schema.entityType? entityType = some t)
    (hname : name ≠ "") {ids : List EntityId}
    (hlookup : ((byName entityType name none).on s).1 = .ok ids) :
    ids = distinct (s.store.idsNamed t entityType name ++ idsFound s entityType name) ∧
      ∀ bundle ∈ bundles s.schema entityType,
        ((loadFor entityType bundle).on s).1 = .ok (s.configurationsOf entityType bundle) := by
  obtain ⟨t', byLabel, found, ht', hlabels, hfind, rfl⟩ := exists_of_byName h.registry hlookup
  rw [ht, Option.some.injEq] at ht'
  subst ht'
  obtain ⟨list, hlist, rfl⟩ := found_of_findSynonyms h (Condition.askable_onSynonym name) hfind
  obtain ⟨hloaded, rfl⟩ := exists_of_loadForEach hlist
  replace hlabels : ((labelled t entityType name none).on s).1 = .ok byLabel := hlabels
  rw [labelled_fst h ht hname] at hlabels
  cases hlabels
  exact ⟨rfl, hloaded⟩

/-- A lookup by name in every bundle gives the stored entities of the type that are labelled by the
name or have it for a synonym, and nothing else, each once: first those labelled so, in the order of
their ids. The synonyms are what the entity has before and after the lookup. -/
theorem mem_byName_iff (used : Used s) (h : s.Searchable) (reported : Reported s)
    (ht : s.schema.entityType? entityType = some t) (hname : name ≠ "") {ids : List EntityId}
    (hlookup : (byName entityType name none).on s = (.ok ids, s')) :
    ids.Nodup ∧ (∀ id ∈ ids, (s.store.load entityType id).isSome) ∧
    (∀ id e, s.store.load entityType id = some e → ∃ names,
      ((entitySynonyms e).on s).1 = .ok names ∧ ((entitySynonyms e).on s').1 = .ok names ∧
      (id ∈ ids ↔ e.isNamed t name = true ∨
        ∃ text ∈ names, Text.lowercase text = Text.lowercase name)) ∧
    ∃ labelled later, ids = labelled ++ later ∧
      (labelled.Pairwise fun id id' => id.text < id'.text) ∧
      ∀ id, id ∈ labelled ↔ ∃ e, s.store.load entityType id = some e ∧ e.isNamed t name = true := by
  have consistent : s.store.Consistent := h.built.consistent
  obtain ⟨rfl, hloaded⟩ := eq_of_byName h ht hname (congrArg Prod.fst hlookup)
  have hmem {id : EntityId} :
      id ∈ distinct (s.store.idsNamed t entityType name ++ idsFound s entityType name) ↔
        ∃ e, s.store.load entityType id = some e ∧ (e.isNamed t name = true ∨
          ∃ text ∈ gathered s e (s.configurationsOf entityType e.bundle),
            Text.lowercase text = Text.lowercase name) := by
    rw [mem_distinct, List.mem_append, consistent.mem_idsNamed_iff,
      mem_idsFound_iff used h reported ht hname, ← exists_or]
    simp only [and_or_left]
  have hafter : s.Alike s' := by
    have hstays := (steady_byName h.registry entityType name none).stays Alike.refl
    rwa [hlookup] at hstays
  refine ⟨?_, fun id hid => ?_, fun id e he => ?_, s.store.idsNamed t entityType name,
    firstsBy id (s.store.idsNamed t entityType name) (idsFound s entityType name), ?_,
    consistent.idsNamed_sorted, fun id => consistent.mem_idsNamed_iff⟩
  · have hfirsts : ((firstsBy id []
        (s.store.idsNamed t entityType name ++ idsFound s entityType name)).map id).Nodup :=
      nodup_firstsBy _
    rwa [distinct_eq_firstsBy, ← List.map_id (firstsBy _ _ _)]
  · obtain ⟨e, he, -⟩ := hmem.1 hid
    rw [he]
    rfl
  · have hbundle : e.bundle ∈ bundles s.schema entityType := reported.bundle (by rw [ht]; rfl) he
    have hget := entitySynonyms_fst (consistent.id_of_load he).1 (hloaded e.bundle hbundle)
    refine ⟨_, hget, ?_, ?_⟩
    · rw [(steady_entitySynonyms h.registry e).same .refl hafter, hget]
    · simp only [hmem, he, Option.some.injEq, exists_eq_left', mem_distinct]
  · have hnodup : ((s.store.idsNamed t entityType name).map id).Nodup := by
      rw [List.map_id]
      exact consistent.idsNamed_sorted.imp fun hlt heq => absurd (heq ▸ hlt) (String.lt_irrefl _)
    have hlabels : firstsBy id [] (s.store.idsNamed t entityType name) =
        s.store.idsNamed t entityType name := firstsBy_of_nodup hnodup fun _ _ => List.not_mem_nil
    rw [distinct_eq_firstsBy, firstsBy_append, hlabels, List.map_id, List.nil_append]

def namesakeService : Service :=
  let namesake : Entity :=
    { entityType := "node", bundle := "article", id := ⟨"3"⟩, label := some "ANN" }
  { authorService with backend := { store := authorService.store.insertEntity namesake } }

theorem searchable_namesake : namesakeService.Searchable where
  registry := rfl
  built := .insertEntity _ (ReferenceProvider.built_authorStore "user")
  up := Backend.inService_of_store _
  plain := plain_author

theorem reported_namesake : Reported namesakeService := by
  have hentities : ∀ x ∈ namesakeService.store.entities.entries, ∀ e ∈ x.2.entries,
      e.2.bundle ∈ bundles namesakeService.schema x.1 := by decide
  have hcases : ∀ x ∈ namesakeService.schema.entityTypes.entries,
      ∀ b ∈ bundles namesakeService.schema x.1, ∀ b' ∈ bundles namesakeService.schema x.1,
        Text.lowercase b = Text.lowercase b' → b = b' := by decide +kernel
  constructor
  · intro entityType id e _ he
    rw [Store.load, Store.entitiesOf] at he
    cases hm : namesakeService.store.entities.get? entityType with
    | none =>
      rw [hm] at he
      cases he
    | some m =>
      rw [hm, Option.getD_some] at he
      exact hentities _ (KeyMap.get?_eq_some_iff.1 hm) _ (KeyMap.get?_eq_some_iff.1 he)
  · intro entityType b b' hb hb' hsame
    cases ht : namesakeService.schema.entityType? entityType with
    | none =>
      simp only [bundles, Schema.bundleIds, Schema.bundlesOf, ht, List.map_nil,
        List.mem_singleton] at hb hb'
      rw [hb, hb']
    | some t => exact hcases _ (KeyMap.get?_eq_some_iff.1 ht) b hb b' hb' hsame

theorem mem_byName_iff_namesake :
    Used namesakeService ∧ namesakeService.Searchable ∧ Reported namesakeService ∧
    ((byName "node" "ann" none).on namesakeService).1 = .ok [⟨"3"⟩, ⟨"1"⟩] ∧
    ∀ id e, namesakeService.store.load "node" id = some e → ∃ names,
      ((entitySynonyms e).on namesakeService).1 = .ok names ∧
      (id ∈ [⟨"3"⟩, ⟨"1"⟩] ↔ e.isNamed
          { id := "node", keys := { bundle := some "type", label := some "title" } } "ann" = true ∨
        ∃ text ∈ names, Text.lowercase text = Text.lowercase "ann") := by
  have used : Used namesakeService := .fresh rfl
  have hids : ((byName "node" "ann" none).on namesakeService).1 = .ok [⟨"3"⟩, ⟨"1"⟩] := by
    decide +kernel
  have hknown : namesakeService.schema.entityType? "node" =
      some { id := "node", keys := { bundle := some "type", label := some "title" } } := rfl
  have hname : "ann" ≠ "" := by decide
  obtain ⟨-, -, hsynonyms, -⟩ := mem_byName_iff used searchable_namesake reported_namesake hknown
    hname (Step.on_eq_of_fst hids)
  refine ⟨used, searchable_namesake, reported_namesake, hids, fun id e he => ?_⟩
  obtain ⟨names, hget, -, hiff⟩ := hsynonyms id e he
  exact ⟨names, hget, hiff⟩

end Lookup
end SynonymLookup
