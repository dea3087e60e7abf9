import SynonymLookup.Proofs.Behavior
import SynonymLookup.Proofs.Lookup.ByName
import SynonymLookup.SearchIndex

/-! The fragment of a host. Its text are the synonyms of the stored entities that the host refers
to, field by field, and its tags are theirs and those of their bundles. -/

namespace SynonymLookup

namespace Lookup

open Service Repository

theorem eq_of_entitySynonyms {s : Service} {e : Entity} {names : List String}
    (h : ((entitySynonyms e).on s).1 = .ok names) :
    names = distinct (gathered s e (s.configurationsOf e.entityType e.bundle)) := by
  obtain ⟨list, hload, rfl⟩ := entitySynonyms_on (Step.on_eq_of_fst h)
  rw [configurationsOf, hload]
  rfl

end Lookup

namespace SearchIndex

open Service Repository

def contribution (s : Service) (e : Entity) : List String :=
  if Behaviors.isOn s Behavior.search.id e.entityType e.bundle then
    Lookup.distinct (Lookup.gathered s e (s.configurationsOf e.entityType e.bundle))
  else []

def tagsOf (e : Entity) : List String := [e.cacheTag, bundleTag e.entityType e.bundle]

theorem mem_tagsOf {e : Entity} {tag : String} :
    tag ∈ tagsOf e ↔ tag = e.cacheTag ∨ tag = bundleTag e.entityType e.bundle := by simp [tagsOf]

def targetsThrough (s : Store) (host : Entity) (f : Field) : List Entity :=
  match contentTarget? s.schema f with
  | none => []
  | some targetType => (Lookup.distinct (host.referencedIds f.name)).filterMap (s.load targetType)

def targets (s : Store) (host : Entity) : List Entity :=
  (s.schema.fieldsOf host.entityType host.bundle).flatMap (targetsThrough s host)

/-- A host refers to an id of a content type, in one of the fields of its bundle. -/
def Refers (s : Schema) (host : Entity) (targetType : String) (id : EntityId) : Prop :=
  ∃ f ∈ s.fieldsOf host.entityType host.bundle, contentTarget? s f = some targetType ∧
    id ∈ host.referencedIds f.name

theorem mem_targets_iff {s : Store} {host e : Entity} :
    e ∈ targets s host ↔ ∃ targetType id, Refers s.schema host targetType id ∧
      s.load targetType id = some e := by
  rw [targets, List.mem_flatMap]
  constructor
  · rintro ⟨f, hf, he⟩
    rw [targetsThrough] at he
    cases htarget : contentTarget? s.schema f with
    | none =>
      rw [htarget] at he
      cases he
    | some targetType =>
      rw [htarget] at he
      obtain ⟨id, hid, hload⟩ := List.mem_filterMap.1 he
      exact ⟨targetType, id, ⟨f, hf, htarget, (Lookup.mem_distinct _ _).1 hid⟩, hload⟩
  · rintro ⟨targetType, id, ⟨f, hf, htarget, hid⟩, hload⟩
    refine ⟨f, hf, ?_⟩
    rw [targetsThrough, htarget]
    exact List.mem_filterMap.2 ⟨id, (Lookup.mem_distinct _ _).2 hid, hload⟩

variable {s : Service} {host : Entity}

def Gathered.add (g : Gathered) (s : Service) (l : List Entity) : Gathered :=
  ⟨g.synonyms ++ l.flatMap (contribution s), g.tags ++ l.flatMap tagsOf⟩

theorem Gathered.add_nil (g : Gathered) : g.add s [] = g := by simp [add]

theorem Gathered.add_append (g : Gathered) (l more : List Entity) :
    g.add s (l ++ more) = (g.add s l).add s more := by
  simp [add]

section Parts

variable (registry : s.registry = Registry.builtin)
include registry

theorem steady_addTargets (g : Gathered) (l : List Entity) :
    Step.Steady s.Alike (addTargets g l) := by
  induction l generalizing g with
  | nil => exact .pure g
  | cons e rest ih =>
    exact (sameSettings_alike.isEnabled _ _ _).bind fun _ =>
      .ite ((Lookup.steady_entitySynonyms registry e).bind fun _ => ih _)
        ((Step.Steady.pure []).bind fun _ => ih _)

theorem eq_of_addTargets {g g' : Gathered} {l : List Entity}
    (h : ((addTargets g l).on s).1 = .ok g') : g' = g.add s l := by
  induction l generalizing g with
  | nil =>
    cases h
    exact (Gathered.add_nil _).symm
  | cons e rest ih =>
    have hrest (found : List String) := steady_addTargets registry
      ⟨g.synonyms ++ found, g.tags ++ tagsOf e⟩ rest
    obtain ⟨enabled, henabled, hnext⟩ :=
      (sameSettings_alike.isEnabled _ _ _).exists_of_on_bind_fst .refl
      (fun _ => .ite ((Lookup.steady_entitySynonyms registry e).bind hrest)
        ((Step.Steady.pure []).bind hrest)) h
    have hon : Behaviors.isOn s Behavior.search.id e.entityType e.bundle = enabled :=
      (Behaviors.eq_of_isEnabled henabled).symm
    have hadd (found : List String) (hfound : found = contribution s e) :
        (⟨g.synonyms ++ found, g.tags ++ tagsOf e⟩ : Gathered).add s rest =
          g.add s (e :: rest) := by
      simp [Gathered.add, hfound]
    cases enabled with
    | true =>
      obtain ⟨names, hnames, hlater⟩ :=
        (Lookup.steady_entitySynonyms registry e).exists_of_on_bind_fst
        .refl hrest hnext
      rw [ih hlater]
      refine hadd names ?_
      rw [contribution, if_pos hon]
      exact Lookup.eq_of_entitySynonyms hnames
    | false =>
      rw [ih hnext]
      refine hadd [] ?_
      rw [contribution, if_neg (by simp [hon])]

theorem steady_addFields (g : Gathered) (fields : List Field) :
    Step.Steady s.Alike (addFields host g fields) := by
  induction fields generalizing g with
  | nil => exact .pure g
  | cons f rest ih =>
    refine .get (fun hu hu' => by rw [hu.schema, hu'.schema]) fun {u} _ => ?_
    cases contentTarget? u.schema f with
    | none => exact ih g
    | some targetType =>
      exact .ite (ih g) ((steady_ask fun _ => rfl).bind fun _ =>
        (steady_addTargets registry _ _).bind fun _ => ih _)

variable (built : s.store.Built) (hidden : s.backend.outages.hidden = [])
include built hidden

theorem eq_of_addFields {g g' : Gathered} {fields : List Field}
    (h : ((addFields host g fields).on s).1 = .ok g') :
    g' = g.add s (fields.flatMap (targetsThrough s.store host)) := by
  induction fields generalizing g with
  | nil =>
    cases h
    exact (Gathered.add_nil _).symm
  | cons f rest ih =>
    rw [addFields, Step.on_bind_ok (Step.on_get s)] at h
    rw [List.flatMap_cons, Gathered.add_append]
    cases htarget : contentTarget? s.schema f with
    | none =>
      have hnone : targetsThrough s.store host f = [] := by
        replace htarget : contentTarget? s.store.schema f = none := htarget
        rw [targetsThrough, htarget]
      rw [htarget] at h
      rw [ih h, hnone, Gathered.add_nil]
    | some targetType =>
      have hsome : targetsThrough s.store host f =
          (Lookup.distinct (host.referencedIds f.name)).filterMap (s.store.load targetType) := by
        replace htarget : contentTarget? s.store.schema f = some targetType := htarget
        rw [targetsThrough, htarget]
      rw [htarget] at h
      dsimp only at h
      split at h
      · rename_i hempty
        rw [List.isEmpty_iff] at hempty
        rw [ih h, hsome, hempty]
        exact congrArg (Gathered.add · s _) (Gathered.add_nil g).symm
      · obtain ⟨loaded, hloaded, hnext⟩ := (steady_ask fun _ => rfl).exists_of_on_bind_fst .refl
          (fun _ => (steady_addTargets registry _ _).bind fun _ => steady_addFields registry _ _) h
        obtain ⟨g₁, hg₁, hrest⟩ := (steady_addTargets registry _ _).exists_of_on_bind_fst .refl
          (fun _ => steady_addFields registry _ _) hnext
        have hstored : (Lookup.distinct (host.referencedIds f.name)).filterMap (fun id =>
            loaded.get? id.text) = targetsThrough s.store host f := by
          rw [hsome]
          exact List.filterMap_congr fun _ hid =>
            Lookup.get?_of_loadAll hidden built hloaded ((Lookup.mem_distinct _ _).1 hid)
        rw [ih hrest, eq_of_addTargets registry hg₁, hstored]

/-- The text of a fragment are the contributions of the targets, and its tags are theirs. -/
theorem eq_of_fragment {fragment : IndexFragment}
    (h : ((SearchIndex.fragment host).on s).1 = .ok fragment) :
    fragment = ⟨", ".intercalate ((targets s.store host).flatMap (contribution s)),
      Lookup.distinct ((targets s.store host).flatMap tagsOf)⟩ := by
  rw [SearchIndex.fragment, Step.on_bind_ok (Step.on_get s)] at h
  obtain ⟨g, hg, hresult⟩ := (steady_addFields registry _ _).exists_of_on_bind_fst .refl
    (fun _ => .pure _) h
  have hall := eq_of_addFields registry built hidden hg
  cases hresult
  rw [hall]
  rfl

theorem mem_cacheTags_iff {fragment : IndexFragment}
    (h : ((SearchIndex.fragment host).on s).1 = .ok fragment) {tag : String} :
    tag ∈ fragment.cacheTags ↔ ∃ targetType id e, Refers s.schema host targetType id ∧
      s.store.load targetType id = some e ∧
        (tag = targetType ++ ":" ++ id.text ∨ tag = bundleTag targetType e.bundle) := by
  rw [eq_of_fragment registry built hidden h, Lookup.mem_distinct, List.mem_flatMap]
  constructor
  · rintro ⟨e, he, htag⟩
    obtain ⟨targetType, id, hrefers, hload⟩ := mem_targets_iff.1 he
    obtain ⟨rfl, rfl⟩ := built.consistent.id_of_load hload
    exact ⟨_, _, e, hrefers, hload, mem_tagsOf.1 htag⟩
  · rintro ⟨targetType, id, e, hrefers, hload, htag⟩
    refine ⟨e, mem_targets_iff.2 ⟨_, _, hrefers, hload⟩, ?_⟩
    obtain ⟨rfl, rfl⟩ := built.consistent.id_of_load hload
    exact mem_tagsOf.2 htag

end Parts

end SearchIndex
end SynonymLookup
