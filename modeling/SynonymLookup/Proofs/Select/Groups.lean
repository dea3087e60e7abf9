import SynonymLookup.Proofs.Lookup.ByName
import SynonymLookup.Proofs.Select.Presentation

/-! The groups of a select: one for each bundle that has an entity, in the order in
which bundles are asked for. A bundle that is asked for again adds nothing, as all its
options would repeat a value. -/

namespace SynonymLookup

def Referenceable.ofEntity (e : Entity) : Referenceable := ⟨e.bundle, e.id, e.labelText⟩

namespace Store

def entitiesIn (s : Store) (entityType bundle : String) : List Entity :=
  (s.entitiesOf entityType).values.filter fun e => e.bundle == bundle

theorem bundle_of_mem_entitiesIn {s : Store} {entityType bundle : String} {e : Entity}
    (h : e ∈ s.entitiesIn entityType bundle) : e.bundle = bundle := by
  simpa using (List.mem_filter.1 h).2

theorem Consistent.mem_entitiesIn_iff {s : Store} (h : s.Consistent) {entityType bundle : String}
    {e : Entity} : e ∈ s.entitiesIn entityType bundle ↔
      s.load entityType e.id = some e ∧ e.bundle = bundle := by
  rw [entitiesIn, List.mem_filter, beq_iff_eq]
  exact and_congr_left fun _ => ⟨h.load_of_mem, fun he => KeyMap.mem_values_iff.2 ⟨_, he⟩⟩

/-- The bundles asked for, all of the type where none is. -/
def bundlesAsked (s : Store) (targetType : String) (asked : List String) : List String :=
  if asked.isEmpty then s.schema.bundleIds targetType else asked

theorem labelMatches_all (s : Store) (targetType : String) (asked : List String) :
    s.labelMatches { targetType, bundles := asked } =
      ((s.bundlesAsked targetType asked).flatMap (s.entitiesIn targetType)).map
        Referenceable.ofEntity := by
  rw [labelMatches, List.map_flatMap]
  refine List.flatMap_congr fun bundle _ => ?_
  have hall : ((s.entitiesOf targetType).values.filter fun e => e.bundle == bundle &&
      (("" : String).isEmpty || Like.isMatch (MatchMode.contains.pattern "") e.labelText)) =
      s.entitiesIn targetType bundle := List.filter_congr fun e _ => by simp
  exact (congrArg _ hall).trans (List.map_congr_left fun e he => by
    rw [Referenceable.ofEntity, bundle_of_mem_entitiesIn he])

end Store

/-! Entities listed by their bundles, some bundles more than once. -/
section ByBundle

variable {members : String → List Entity} (hmembers : ∀ b, ∀ e ∈ members b, e.bundle = b)
include hmembers

theorem firstsBy_map_bundle (bundles seen : List String) :
    firstsBy id seen ((bundles.flatMap members).map (·.bundle)) =
      firstsBy id seen (bundles.filter fun b => !(members b).isEmpty) := by
  induction bundles generalizing seen with
  | nil => rfl
  | cons b rest ih =>
    rw [List.flatMap_cons, List.map_append]
    cases hmine : members b with
    | nil => rw [List.filter_cons_of_neg (by simp [hmine]), List.map_nil, List.nil_append, ih]
    | cons e more =>
      have hrepeated : ∀ x ∈ more.map (·.bundle), id x ∈ seen ++ [b].map id := by
        intro x hx
        obtain ⟨e', he', rfl⟩ := List.mem_map.1 hx
        have hown : e'.bundle = b := hmembers b e' (hmine ▸ List.mem_cons_of_mem _ he')
        simp [hown]
      have hfirst : firstsBy id seen ((e :: more).map (·.bundle)) = firstsBy id seen [b] := by
        rw [List.map_cons, hmembers b e (hmine ▸ List.mem_cons_self), ← List.singleton_append]
        exact firstsBy_append_of_mem hrepeated
      rw [List.filter_cons_of_pos (by simp [hmine]), firstsBy_append, hfirst, ih]
      exact (firstsBy_append [b] _).symm

theorem mem_of_mem_flatMap_members {bundles : List String} {b : String} {e : Entity}
    (h : e ∈ (bundles.flatMap members).filter fun e => e.bundle == b) : e ∈ members b := by
  obtain ⟨hlisted, hbundle⟩ := List.mem_filter.1 h
  obtain ⟨b', -, he⟩ := List.mem_flatMap.1 hlisted
  have hsame : b' = b := (hmembers b' e he).symm.trans (by simpa using hbundle)
  exact hsame ▸ he

/-- The entities of a bundle that is listed again repeat what is made of them. -/
theorem firstsBy_of_repeated {α κ : Type} [BEq κ] [LawfulBEq κ] {key : α → κ} (f : Entity → List α)
    {bundles : List String} {b : String} (hb : b ∈ bundles) :
    firstsBy key [] (((bundles.flatMap members).filter fun e => e.bundle == b).flatMap f) =
      firstsBy key [] ((members b).flatMap f) := by
  induction bundles with
  | nil => cases hb
  | cons b' rest ih =>
    rw [List.flatMap_cons, List.filter_append]
    by_cases hsame : b' = b
    · subst hsame
      have hown : (members b').filter (fun e => e.bundle == b') = members b' :=
        List.filter_eq_self.2 fun e he => by simpa using hmembers b' e he
      rw [hown, List.flatMap_append]
      refine firstsBy_append_of_mem fun a ha => ?_
      obtain ⟨e, he, ha⟩ := List.mem_flatMap.1 ha
      exact List.mem_map_of_mem
        (List.mem_flatMap.2 ⟨e, mem_of_mem_flatMap_members hmembers he, ha⟩)
    · have hother : (members b').filter (fun e => e.bundle == b) = [] :=
        List.filter_eq_nil_iff.2 fun e he => by simpa [hmembers b' e he] using hsame
      rw [hother, List.nil_append]
      exact ih ((List.mem_cons.1 hb).resolve_left (Ne.symm hsame))

end ByBundle

namespace Select

open Service Repository

/-- An option before its value is written: what it stands for, and how it is shown. -/
structure Offer where
  value : OptionValue
  label : String
deriving DecidableEq, Repr

def Offer.option (o : Offer) : SelectOption := ⟨o.value.encode, o.label⟩

def offersOf (s : Service) (e : Entity) : List Offer :=
  ⟨⟨e.id, none⟩, e.labelText⟩ :: (worded s e).map fun w => ⟨⟨e.id, some w.synonym⟩, w.wording⟩

def offersIn (s : Service) (targetType bundle : String) : List Offer :=
  firstsBy (fun o => o.value.encode) []
    ((s.store.entitiesIn targetType bundle).flatMap (offersOf s))

def shownBundles (s : Store) (targetType : String) (asked : List String) : List String :=
  Lookup.distinct ((s.bundlesAsked targetType asked).filter fun b =>
    !(s.entitiesIn targetType b).isEmpty)

theorem distinctOptions_eq (l : List SelectOption) :
    distinctOptions l = firstsBy (·.value) [] l := by
  rw [← reverse_foldl_eq_firstsBy, distinctOptions]
  simp only [BEq.comm]

variable {s : Service} {targetType : String}

theorem optionsOf_eq {l : List Entity} {synonyms : KeyMap (List SynonymWording)}
    (h : ∀ e ∈ l, (synonyms.get? e.id.text).getD [] = worded s e) :
    optionsOf (l.map Referenceable.ofEntity) synonyms =
      (firstsBy (fun o => o.value.encode) [] (l.flatMap (offersOf s))).map Offer.option := by
  rw [optionsOf, distinctOptions_eq]
  have hoffers : ((l.map Referenceable.ofEntity).flatMap fun r =>
      (⟨OptionValue.encode ⟨r.id, none⟩, r.label⟩ : SelectOption) ::
        ((synonyms.get? r.id.text).getD []).map fun w =>
          ⟨OptionValue.encode ⟨r.id, some w.synonym⟩, w.wording⟩) =
      (l.flatMap (offersOf s)).map Offer.option := by
    rw [List.flatMap_map, List.map_flatMap]
    refine List.flatMap_congr fun e he => ?_
    simp only [Referenceable.ofEntity, h e he, offersOf, List.map_cons, List.map_map]
    rfl
  rw [hoffers]
  exact firstsBy_map Offer.option _

def partsOf (l : List Entity) : List (String × List Entity) :=
  (Lookup.distinct (l.map (·.bundle))).map fun b => (b, l.filter fun e => e.bundle == b)

def listed (p : String × List Entity) : String × List Referenceable :=
  (p.1, p.2.map Referenceable.ofEntity)

theorem byBundle_map (l : List Entity) :
    byBundle (l.map Referenceable.ofEntity) = (partsOf l).map listed := by
  simp only [byBundle, partsOf, List.map_map, List.filter_map]
  rfl

section Parts

variable {store : Store} {bundles : List String}

theorem partsOf_entities (store : Store) (targetType : String) (bundles : List String) :
    partsOf (bundles.flatMap (store.entitiesIn targetType)) =
      (Lookup.distinct (bundles.filter fun b =>
        !(store.entitiesIn targetType b).isEmpty)).map fun b =>
        (b, (bundles.flatMap (store.entitiesIn targetType)).filter fun e => e.bundle == b) := by
  rw [partsOf, Lookup.distinct_eq_firstsBy, Lookup.distinct_eq_firstsBy,
    firstsBy_map_bundle fun _ _ he => Store.bundle_of_mem_entitiesIn he]

theorem of_mem_partsOf (consistent : store.Consistent) {p : String × List Entity}
    (hp : p ∈ partsOf (bundles.flatMap (store.entitiesIn targetType))) {e : Entity} (he : e ∈ p.2) :
    store.load targetType e.id = some e ∧ e.bundle = p.1 := by
  obtain ⟨b, -, rfl⟩ := List.mem_map.1 hp
  exact consistent.mem_entitiesIn_iff.1
    (mem_of_mem_flatMap_members (fun _ _ he => Store.bundle_of_mem_entitiesIn he) he)

theorem partsOf_apart (consistent : store.Consistent) :
    (partsOf (bundles.flatMap (store.entitiesIn targetType))).Pairwise fun p p' =>
      ∀ e ∈ p.2, ∀ e' ∈ p'.2, e.id ≠ e'.id := by
  have hbundles : ((partsOf (bundles.flatMap (store.entitiesIn targetType))).map (·.1)).Nodup := by
    have hfirsts : ((firstsBy id [] ((bundles.flatMap (store.entitiesIn targetType)).map
      (·.bundle))).map id).Nodup := nodup_firstsBy _
    rw [List.map_id] at hfirsts
    rw [partsOf, List.map_map, Lookup.distinct_eq_firstsBy]
    simpa [Function.comp_def] using hfirsts
  refine List.Pairwise.imp_of_mem ?_ (List.pairwise_map.1 hbundles)
  intro p p' hp hp' hne e he e' he' hid
  obtain ⟨hload, hbundle⟩ := of_mem_partsOf consistent hp he
  obtain ⟨hload', hbundle'⟩ := of_mem_partsOf consistent hp' he'
  rw [hid, hload', Option.some.injEq] at hload
  exact hne (hbundle.symm.trans (hload ▸ hbundle'))

end Parts

section Groups

variable (registry : s.registry = Registry.builtin)
include registry

theorem steady_groups (targetType : String) (loaded : KeyMap Entity)
    (l : List (String × List Referenceable)) :
    Step.Steady s.Alike (groups targetType loaded l) := by
  induction l generalizing loaded with
  | nil => exact .pure []
  | cons p rest ih =>
    refine (steady_synonymsOfAll registry _).bind fun _ => ?_
    exact .get (fun hu hu' => by rw [hu.schema, hu'.schema]) fun _ => (ih _).bind fun _ => .pure _

omit registry in
theorem options_eq (targetType : String) (asked : List String) : options targetType asked = do
    let members ← ask fun b => b.select { targetType, bundles := asked }
    let loaded ← Lookup.loadSome targetType ((byBundle members).flatMap fun g => g.2.map (·.id))
    return .ofGroups (← groups targetType loaded (byBundle members)) := by
  rw [options]
  refine bind_congr fun members => ?_
  dsimp only
  rw [Lookup.loadSome]
  split <;> rfl

theorem steady_grouped (targetType : String) (members : List Referenceable)
    (loaded : KeyMap Entity) : Step.Steady s.Alike (do
      return .ofGroups (← groups targetType loaded (byBundle members)) : Action SelectOptions) :=
  (steady_groups registry targetType loaded _).bind fun _ => .pure _

theorem steady_options (targetType : String) (asked : List String) :
    Step.Steady s.Alike (options targetType asked) := by
  rw [options_eq]
  exact (steady_ask fun _ => rfl).bind fun members =>
    (Lookup.steady_loadSome targetType _).bind (steady_grouped registry targetType members)

/-- Groups of loaded entities, no two of which share an entity, offer what their entities offer. -/
theorem of_groups (built : s.store.Built) {parts : List (String × List Entity)}
    {loaded : KeyMap Entity} (hloaded : ∀ p ∈ parts, ∀ e ∈ p.2, loaded.get? e.id.text = some e)
    (hapart : parts.Pairwise fun p p' => ∀ e ∈ p.2, ∀ e' ∈ p'.2, e.id ≠ e'.id)
    {result : List OptionGroup}
    (h : ((groups targetType loaded (parts.map listed)).on s).1 = .ok result) :
    result = parts.map (fun p => ⟨s.schema.bundleLabel targetType p.1,
      (firstsBy (fun o => o.value.encode) [] (p.2.flatMap (offersOf s))).map Offer.option⟩) ∧
    ∀ p ∈ parts, ∀ e ∈ p.2, Behaviors.isOn s Behavior.select.id e.entityType e.bundle = true →
      ((loadFor e.entityType e.bundle).on s).1 =
        .ok (s.configurationsOf e.entityType e.bundle) := by
  induction parts generalizing loaded result with
  | nil =>
    cases h
    exact ⟨rfl, fun _ hp => absurd hp List.not_mem_nil⟩
  | cons p rest ih =>
    rw [List.pairwise_cons] at hapart
    have hlater (members : List Referenceable) (others : KeyMap Entity)
        (synonyms : KeyMap (List SynonymWording)) (u : Service) : Step.Steady s.Alike (do
        return ⟨u.schema.bundleLabel targetType p.1, optionsOf members synonyms⟩ ::
          (← groups targetType others (rest.map listed)) : Action (List OptionGroup)) :=
      (steady_groups registry targetType others _).bind fun _ => .pure _
    obtain ⟨synonyms, hsynonyms, hnext⟩ :=
      (steady_synonymsOfAll registry _).exists_of_on_bind_fst .refl
      (fun synonyms => .get (fun hu hu' => by rw [hu.schema, hu'.schema]) fun _ =>
        hlater _ _ synonyms _) h
    rw [Step.on_bind_ok (Step.on_get s)] at hnext
    obtain ⟨later, hrest, hresult⟩ :=
      (steady_groups registry targetType _ _).exists_of_on_bind_fst .refl
      (fun _ => .pure _) hnext
    -- the entities of this part are taken out of what was loaded, and none is missed by the rest
    have hmine : ∀ e ∈ p.2, (loaded.filter fun id _ =>
        (listed p).2.any fun r => r.id.text == id).get? e.id.text = some e := by
      intro e he
      have hkept : ((listed p).2.any fun r => r.id.text == e.id.text) = true :=
        List.any_eq_true.2 ⟨_, List.mem_map_of_mem he, by simp [Referenceable.ofEntity]⟩
      rw [KeyMap.get?_filter, hloaded p List.mem_cons_self e he, hkept]
      rfl
    have hothers : ∀ p' ∈ rest, ∀ e ∈ p'.2, (loaded.filter fun id _ =>
        !(listed p).2.any fun r => r.id.text == id).get? e.id.text = some e := by
      intro p' hp' e he
      have hnone : ((listed p).2.any fun r => r.id.text == e.id.text) = false := by
        rw [List.any_eq_false]
        intro r hr hsame
        obtain ⟨e', he', rfl⟩ := List.mem_map.1 hr
        have htext : e'.id.text = e.id.text := by simpa [Referenceable.ofEntity] using hsame
        exact hapart.1 p' hp' e' he' e he (congrArg EntityId.mk htext)
      rw [KeyMap.get?_filter, hloaded p' (List.mem_cons_of_mem _ hp') e he, hnone]
      rfl
    obtain ⟨hlabels, hlists⟩ := ih hothers hapart.2 hrest
    cases hresult
    refine ⟨?_, fun p' hp' e he => ?_⟩
    · have hoptions := optionsOf_eq fun e he =>
        (of_synonymsOfAll registry built hsynonyms (hmine e he)).1
      rw [List.map_cons, hlabels, ← hoptions]
    · rcases List.mem_cons.1 hp' with rfl | hp'
      · exact (of_synonymsOfAll registry built hsynonyms (hmine e he)).2
      · exact hlists p' hp' e he

theorem of_options (built : s.store.Built) (hidden : s.backend.outages.hidden = [])
    {asked : List String} {result : SelectOptions}
    (h : ((options targetType asked).on s).1 = .ok result) :
    result = .ofGroups ((shownBundles s.store targetType asked).map fun b =>
      ⟨s.schema.bundleLabel targetType b, (offersIn s targetType b).map Offer.option⟩) ∧
    ∀ b ∈ shownBundles s.store targetType asked,
      Behaviors.isOn s Behavior.select.id targetType b = true →
        ((loadFor targetType b).on s).1 = .ok (s.configurationsOf targetType b) := by
  have consistent : s.store.Consistent := built.consistent
  rw [options_eq] at h
  obtain ⟨members, hmembers, hrest⟩ := (steady_ask fun _ => rfl).exists_of_on_bind_fst .refl
    (fun members => (Lookup.steady_loadSome targetType _).bind
      (steady_grouped registry targetType members))
    h
  obtain ⟨-, hselect⟩ := Lookup.ask_eq_ok (Step.on_eq_of_fst hmembers)
  obtain ⟨-, hall⟩ := Backend.select_eq_ok hselect
  rw [if_pos rfl, Store.labelMatches_all] at hall
  subst hall
  obtain ⟨loaded, hload, hgrouped⟩ :=
    (Lookup.steady_loadSome targetType _).exists_of_on_bind_fst .refl
    (steady_grouped registry targetType _) hrest
  obtain ⟨list, hlist, hresult⟩ :=
    (steady_groups registry targetType loaded _).exists_of_on_bind_fst .refl
    (fun _ => .pure _) hgrouped
  cases hresult
  rw [byBundle_map] at hload hlist
  have hloaded : ∀ p ∈ partsOf ((s.store.bundlesAsked targetType asked).flatMap
      (s.store.entitiesIn targetType)), ∀ e ∈ p.2, loaded.get? e.id.text = some e := by
    intro p hp e he
    have hid : e.id ∈ ((partsOf ((s.store.bundlesAsked targetType asked).flatMap
        (s.store.entitiesIn targetType))).map listed).flatMap fun g => g.2.map (·.id) := by
      refine List.mem_flatMap.2 ⟨listed p, List.mem_map_of_mem hp, ?_⟩
      exact List.mem_map.2 ⟨_, List.mem_map_of_mem he, rfl⟩
    rw [Lookup.get?_of_loadSome hidden built hload hid, (of_mem_partsOf consistent hp he).1]
  obtain ⟨hgroups, hlists⟩ := of_groups registry built hloaded (partsOf_apart consistent) hlist
  rw [partsOf_entities] at hgroups hlists
  refine ⟨?_, fun b hb hon => ?_⟩
  · rw [hgroups, List.map_map]
    refine congrArg _ (List.map_congr_left fun b hb => ?_)
    have hasked : b ∈ s.store.bundlesAsked targetType asked :=
      (List.mem_filter.1 ((Lookup.mem_distinct _ _).1 hb)).1
    rw [offersIn, ← firstsBy_of_repeated (fun _ _ he => Store.bundle_of_mem_entitiesIn he) _ hasked]
    rfl
  · have hshown := List.mem_filter.1 ((Lookup.mem_distinct _ _).1 hb)
    obtain ⟨e, he⟩ := List.exists_mem_of_ne_nil (s.store.entitiesIn targetType b)
      (by simpa using hshown.2)
    obtain ⟨hstored, rfl⟩ := consistent.mem_entitiesIn_iff.1 he
    have hpart : e ∈ ((s.store.bundlesAsked targetType asked).flatMap
        (s.store.entitiesIn targetType)).filter fun e' => e'.bundle == e.bundle :=
      List.mem_filter.2 ⟨List.mem_flatMap.2 ⟨_, hshown.1, he⟩, beq_self_eq_true _⟩
    have htype : e.entityType = targetType := (consistent.id_of_load hstored).1
    have hload := hlists _ (List.mem_map_of_mem hb) e hpart (by rwa [htype])
    rwa [htype] at hload

end Groups

end Select
end SynonymLookup
