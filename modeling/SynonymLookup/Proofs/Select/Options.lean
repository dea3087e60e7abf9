import SynonymLookup.Proofs.Select.Groups
import SynonymLookup.Proofs.Select.OptionValue

/-! What a select lists. Where no id has a colon, option values are told apart by what they stand
for, so the options of a bundle are those of its entities one by one: the label, and then the
synonyms that a lookup of the entity's own synonyms gives. -/

namespace SynonymLookup
namespace Select

open Service Lookup

variable {s s' : Service} {targetType : String}

/-- The synonyms that an entity is shown with, each once, in its first wording. -/
def shownSynonyms (s : Service) (e : Entity) : List SynonymWording :=
  firstsBy (·.synonym) [] (worded s e)

def optionsFor (s : Service) (e : Entity) : List SelectOption :=
  ⟨e.id.text, e.labelText⟩ ::
    (shownSynonyms s e).map fun w => ⟨OptionValue.encode ⟨e.id, some w.synonym⟩, w.wording⟩

def valuesFor (s : Service) (e : Entity) : List OptionValue :=
  ⟨e.id, none⟩ :: (shownSynonyms s e).map fun w => ⟨e.id, some w.synonym⟩

theorem map_synonym_shownSynonyms (s : Service) {e : Entity}
    (hon : Behaviors.isOn s Behavior.select.id e.entityType e.bundle = true) :
    (shownSynonyms s e).map (·.synonym) =
      distinct (gathered s e (s.configurationsOf e.entityType e.bundle)) := by
  rw [shownSynonyms, worded, if_pos hon, distinct_eq_firstsBy, ← map_synonym_wordedBy, firstsBy_map]
  rfl

theorem shownSynonyms_of_off (s : Service) {e : Entity}
    (hoff : Behaviors.isOn s Behavior.select.id e.entityType e.bundle = false) :
    shownSynonyms s e = [] := by
  rw [shownSynonyms, worded, if_neg (by simp [hoff])]
  rfl

/-- Within one entity, a value repeats where a synonym does. -/
theorem firstsBy_offersOf (s : Service) (e : Entity) :
    firstsBy (fun o => o.value.encode) [] (offersOf s e) = ⟨⟨e.id, none⟩, e.labelText⟩ ::
      (shownSynonyms s e).map fun w => ⟨⟨e.id, some w.synonym⟩, w.wording⟩ := by
  have hunseen : ∀ o ∈ (worded s e).map fun w => (⟨⟨e.id, some w.synonym⟩, w.wording⟩ : Offer),
      o.value.encode ∉ [] ++ [OptionValue.encode ⟨e.id, none⟩] := by
    intro o ho hmem
    obtain ⟨w, -, rfl⟩ := List.mem_map.1 ho
    exact OptionValue.encode_some_ne_text e.id w.synonym (List.mem_singleton.1 hmem)
  have hsynonyms : firstsBy (fun w => OptionValue.encode ⟨e.id, some w.synonym⟩) [] (worded s e) =
      shownSynonyms s e := firstsBy_comp (OptionValue.encode_some_inj e.id) SynonymWording.synonym _
  rw [offersOf, firstsBy_cons_of_not_mem List.not_mem_nil, firstsBy_of_unseen hunseen, firstsBy_map,
    hsynonyms]

theorem entityId_of_mem_offersOf {e : Entity} {o : Offer} (h : o ∈ offersOf s e) :
    o.value.entityId = e.id := by
  rcases List.mem_cons.1 h with rfl | h
  · rfl
  · obtain ⟨w, -, rfl⟩ := List.mem_map.1 h
    rfl

theorem offersIn_eq (built : s.store.Built) {bundle : String}
    (plain : ∀ e ∈ s.store.entitiesIn targetType bundle, e.id.IsPlain) :
    offersIn s targetType bundle = (s.store.entitiesIn targetType bundle).flatMap fun e =>
      ⟨⟨e.id, none⟩, e.labelText⟩ ::
        (shownSynonyms s e).map fun w => ⟨⟨e.id, some w.synonym⟩, w.wording⟩ := by
  have hsorted : (s.store.entitiesIn targetType bundle).Pairwise fun e e' =>
      e.id.text < e'.id.text :=
    (built.consistent.values_sorted targetType).filter _
  have hapart : (s.store.entitiesIn targetType bundle).Pairwise fun e e' =>
      ∀ o ∈ offersOf s e, ∀ o' ∈ offersOf s e', o.value.encode ≠ o'.value.encode := by
    refine hsorted.imp_of_mem fun {e e'} he he' hlt o ho o' ho' hsame => ?_
    have hread : o.value = o'.value := by
      rw [← OptionValue.decode_encode (v := o.value)
        (entityId_of_mem_offersOf ho ▸ plain e he), hsame, OptionValue.decode_encode (v := o'.value)
          (entityId_of_mem_offersOf ho' ▸ plain e' he')]
    rw [← entityId_of_mem_offersOf ho, ← entityId_of_mem_offersOf ho', hread] at hlt
    exact String.lt_irrefl _ hlt
  rw [offersIn, firstsBy_flatMap hapart]
  exact List.flatMap_congr fun e _ => firstsBy_offersOf s e

theorem decode_of_mem_offersIn {bundle : String}
    (plain : ∀ e ∈ s.store.entitiesIn targetType bundle, e.id.IsPlain) {o : Offer}
    (ho : o ∈ offersIn s targetType bundle) :
    OptionValue.decode o.option.value = o.value := by
  obtain ⟨e, he, hoffer⟩ := List.mem_flatMap.1 (mem_of_mem_firstsBy ho).1
  exact OptionValue.decode_encode (entityId_of_mem_offersOf hoffer ▸ plain e he)

section Plain

variable (built : s.store.Built) {bundle : String}
  (plain : ∀ e ∈ s.store.entitiesIn targetType bundle, e.id.IsPlain)
include built plain

theorem map_option_offersIn : (offersIn s targetType bundle).map Offer.option =
    (s.store.entitiesIn targetType bundle).flatMap (optionsFor s) := by
  rw [offersIn_eq built plain, List.map_flatMap]
  refine List.flatMap_congr fun e _ => ?_
  rw [List.map_cons, List.map_map]
  rfl

theorem map_value_offersIn : (offersIn s targetType bundle).map (·.value) =
    (s.store.entitiesIn targetType bundle).flatMap (valuesFor s) := by
  rw [offersIn_eq built plain, List.map_flatMap]
  refine List.flatMap_congr fun e _ => ?_
  rw [List.map_cons, List.map_map]
  rfl

end Plain

theorem exists_flat_iff (groups : List OptionGroup) :
    (∃ l, SelectOptions.ofGroups groups = .flat l) ↔ groups.length = 1 := by
  rcases groups with _ | ⟨g, _ | ⟨g', rest⟩⟩ <;> simp [SelectOptions.ofGroups]

/-- Where no id has a colon, a select has a group for each bundle asked for that has an entity, in
the order in which these are asked for first, and is flat where there is one. The group lists the
stored entities of the bundle in the order of their ids: first the label, with the id for its value,
then one option for each synonym that a lookup of the entity's own synonyms gives, before and after,
in that order; none where select is switched off. No value comes twice, and every value is read as
the id and the synonym that it stands for. -/
theorem options_list_entities (registry : s.registry = Registry.builtin) (built : s.store.Built)
    (hidden : s.backend.outages.hidden = []) {asked : List String} {result : SelectOptions}
    (plain : ∀ e ∈ (s.store.entitiesOf targetType).values, e.id.IsPlain)
    (h : (options targetType asked).on s = (.ok result, s')) :
    result = .ofGroups ((shownBundles s.store targetType asked).map fun b =>
      ⟨s.schema.bundleLabel targetType b,
        (s.store.entitiesIn targetType b).flatMap (optionsFor s)⟩) ∧
    ((∃ l, result = .flat l) ↔ (shownBundles s.store targetType asked).length = 1) ∧
    (∀ b, b ∈ shownBundles s.store targetType asked ↔
      b ∈ s.store.bundlesAsked targetType asked ∧ s.store.entitiesIn targetType b ≠ []) ∧
    ∀ b ∈ shownBundles s.store targetType asked,
      ((s.store.entitiesIn targetType b).Pairwise fun e e' => e.id.text < e'.id.text) ∧
      (((s.store.entitiesIn targetType b).flatMap (optionsFor s)).map (·.value)).Nodup ∧
      ((s.store.entitiesIn targetType b).flatMap (optionsFor s)).map
        (fun o => OptionValue.decode o.value) =
        (s.store.entitiesIn targetType b).flatMap (valuesFor s) ∧
      ∀ e ∈ s.store.entitiesIn targetType b,
        if Behaviors.isOn s Behavior.select.id targetType b then
          ((entitySynonyms e).on s).1 = .ok ((shownSynonyms s e).map (·.synonym)) ∧
            ((entitySynonyms e).on s').1 = .ok ((shownSynonyms s e).map (·.synonym))
        else shownSynonyms s e = [] := by
  have consistent : s.store.Consistent := built.consistent
  have hplain (b : String) : ∀ e ∈ s.store.entitiesIn targetType b, e.id.IsPlain := fun e he =>
    plain e (List.mem_filter.1 he).1
  have hafter : s.Alike s' := by
    have hstays := (steady_options registry targetType asked).stays Alike.refl
    rwa [h] at hstays
  obtain ⟨hresult, hlists⟩ := of_options registry built hidden (congrArg Prod.fst h)
  refine ⟨?_, ?_, fun b => ?_, fun b hb => ⟨?_, ?_, ?_, fun e he => ?_⟩⟩
  · rw [hresult]
    exact congrArg _ (List.map_congr_left fun b _ => by rw [map_option_offersIn built (hplain b)])
  · rw [hresult, exists_flat_iff, List.length_map]
  · rw [shownBundles, mem_distinct, List.mem_filter, Bool.not_eq_true', ← Bool.not_eq_true,
      List.isEmpty_iff]
  · exact (consistent.values_sorted targetType).filter _
  · have hfirsts : ((offersIn s targetType b).map fun o => o.value.encode).Nodup := nodup_firstsBy _
    rw [← map_option_offersIn built (hplain b), List.map_map]
    exact hfirsts
  · rw [← map_option_offersIn built (hplain b), ← map_value_offersIn built (hplain b), List.map_map]
    exact List.map_congr_left fun o ho => decode_of_mem_offersIn (hplain b) ho
  · obtain ⟨hstored, rfl⟩ := consistent.mem_entitiesIn_iff.1 he
    have htype : e.entityType = targetType := (consistent.id_of_load hstored).1
    split
    · rename_i hon
      have hnames : ((entitySynonyms e).on s).1 = .ok ((shownSynonyms s e).map (·.synonym)) := by
        rw [entitySynonyms_fst htype (hlists e.bundle hb hon),
          map_synonym_shownSynonyms s (by rwa [htype]), htype]
      exact ⟨hnames, ((steady_entitySynonyms registry e).same .refl hafter).trans hnames⟩
    · rename_i hoff
      exact shownSynonyms_of_off s (by rw [htype]; simpa using hoff)

def zooStore : Store :=
  let node : EntityType :=
    { id := "node", keys := { bundle := some "type", label := some "title" } }
  let field : Field := { name := "alias", fieldType := "string" }
  let fox : Entity := { entityType := "node", bundle := "animal", id := ⟨"1"⟩, label := some "Fox" }
  let oak : Entity := { entityType := "node", bundle := "plant", id := ⟨"2"⟩, label := some "Oak" }
  let owl : Entity := { entityType := "node", bundle := "animal", id := ⟨"3"⟩, label := some "Owl" }
  (((((((({} : Store).mapSchema (·.insertEntityType node)).mapSchema
    (·.insertBundle "node" ⟨"animal", "Animal"⟩)).mapSchema
    (·.insertBundle "node" ⟨"plant", "Plant"⟩)).mapSchema
    (·.insertField "node" "animal" field)).mapSchema
    (·.insertField "node" "plant" field)).insertEntity
    (fox.withValues "alias" [.string "3:a", .string "Reynard", .string "3:a"])).insertEntity
    (oak.withValues "alias" [.string "Quercus"])).insertEntity owl

def zooService : Service :=
  let animal : Configuration := { id := "animal", plugin := "field:node.animal.alias" }
  let plant : Configuration := { id := "plant", plugin := "field:node.plant.alias" }
  let on : BehaviorSetting := { status := true }
  { backend := { store := zooStore }
    blobs := ((KeyMap.empty.insert animal.key animal.toJson).insert plant.key plant.toJson).insert
      (Behavior.settingKey Behavior.select.id "node" "animal") on.toJson }

theorem built_zooStore : zooService.store.Built :=
  .insertEntity _ (.insertEntity _ (.insertEntity _ (.insertField _ _ _ (.insertField _ _ _
    (.insertBundle _ _ (.insertBundle _ _ (.insertEntityType _ .empty)))))))

theorem options_list_entities_zoo :
    (∀ e ∈ (zooService.store.entitiesOf "node").values, e.id.IsPlain) ∧
    ((options "node" ["animal", "plant", "animal"]).on zooService).1 = .ok (.grouped
      [⟨"Animal", [⟨"1", "Fox"⟩, ⟨"1:3:a", "3:a"⟩, ⟨"1:Reynard", "Reynard"⟩, ⟨"3", "Owl"⟩]⟩,
        ⟨"Plant", [⟨"2", "Oak"⟩]⟩]) ∧
    shownBundles zooService.store "node" ["animal", "plant", "animal"] = ["animal", "plant"] ∧
    ∀ e ∈ zooService.store.entitiesIn "node" "animal",
      ((entitySynonyms e).on zooService).1 =
        .ok ((shownSynonyms zooService e).map (·.synonym)) := by
  have plain : ∀ e ∈ (zooService.store.entitiesOf "node").values, e.id.IsPlain := by decide +kernel
  have hlisted : ((options "node" ["animal", "plant", "animal"]).on zooService).1 = .ok (.grouped
      [⟨"Animal", [⟨"1", "Fox"⟩, ⟨"1:3:a", "3:a"⟩, ⟨"1:Reynard", "Reynard"⟩, ⟨"3", "Owl"⟩]⟩,
        ⟨"Plant", [⟨"2", "Oak"⟩]⟩]) := by decide +kernel
  have hshown : shownBundles zooService.store "node" ["animal", "plant", "animal"] =
      ["animal", "plant"] := by decide +kernel
  have hon : Behaviors.isOn zooService Behavior.select.id "node" "animal" = true := by
    decide +kernel
  obtain ⟨-, -, -, hgroups⟩ := options_list_entities rfl built_zooStore rfl plain
    (Step.on_eq_of_fst hlisted)
  refine ⟨plain, hlisted, hshown, fun e he => ?_⟩
  have hnames := (hgroups "animal" (hshown ▸ List.mem_cons_self)).2.2.2 e he
  rw [if_pos hon] at hnames
  exact hnames.1

end Select
end SynonymLookup
