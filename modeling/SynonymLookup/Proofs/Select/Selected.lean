import SynonymLookup.Proofs.Select.Options

/-! From options back to entities. What is selected are the entities that the options were made for,
as long as their ids have no colon; an empty value stands for no selection. -/

namespace SynonymLookup
namespace Select

open Service

variable {s : Service} {targetType : String}

def offered (s : Service) (targetType : String) (asked : List String) : List Offer :=
  (shownBundles s.store targetType asked).flatMap (offersIn s targetType)

theorem options_ofGroups (groups : List OptionGroup) :
    (SelectOptions.ofGroups groups).options = groups.flatMap OptionGroup.options := by
  rcases groups with _ | ⟨g, _ | ⟨g', rest⟩⟩ <;>
    simp [SelectOptions.ofGroups, SelectOptions.options]

theorem isSome_load_of_mem_offered (built : s.store.Built) {asked : List String} {o : Offer}
    (ho : o ∈ offered s targetType asked) : (s.store.load targetType o.value.entityId).isSome := by
  obtain ⟨bundle, -, ho⟩ := List.mem_flatMap.1 ho
  obtain ⟨e, he, hoffer⟩ := List.mem_flatMap.1 (mem_of_mem_firstsBy ho).1
  rw [entityId_of_mem_offersOf hoffer, (built.consistent.mem_entitiesIn_iff.1 he).1]
  rfl

theorem nodup_selectedIds (values : List String) : (OptionValue.selectedIds values).Nodup := by
  have hfirsts : ((firstsBy id [] ((values.filter fun v => !v.isEmpty).map fun v =>
    (OptionValue.decode v).entityId)).map id).Nodup := nodup_firstsBy _
  rwa [List.map_id, ← Lookup.distinct_eq_firstsBy] at hfirsts

theorem selectedIds_map_value {chosen : List Offer}
    (plain : ∀ o ∈ chosen, o.value.entityId.IsPlain) :
    OptionValue.selectedIds (chosen.map fun o => o.option.value) =
      Lookup.distinct ((chosen.filter fun o => o.option.value != "").map (·.value.entityId)) := by
  have hkept : (chosen.filter fun o => !o.option.value.isEmpty) =
      chosen.filter fun o => o.option.value != "" :=
    List.filter_congr fun o _ => by rw [Bool.eq_iff_iff]; simp
  rw [OptionValue.selectedIds, List.filter_map, List.map_map]
  refine congrArg _ ((List.map_congr_left fun o ho => ?_).trans (congrArg _ hkept))
  have hread : OptionValue.decode o.option.value = o.value :=
    OptionValue.decode_encode (plain o (List.mem_filter.1 ho).1)
  rw [Function.comp_apply, hread]

/-- A value with a plain id is read as it was written, and every text is written as it was read. So
of all that a select offers, whatever is chosen of entities with plain ids is given back as these
entities, each once and in order; only an empty value is passed over. -/
theorem options_round_trip (registry : s.registry = Registry.builtin) (built : s.store.Built)
    (hidden : s.backend.outages.hidden = []) :
    (∀ v : OptionValue, v.entityId.IsPlain → OptionValue.decode v.encode = v) ∧
    (∀ text, (OptionValue.decode text).encode = text) ∧
    ∀ targetType asked result, ((options targetType asked).on s).1 = .ok result →
      result.options = (offered s targetType asked).map Offer.option ∧
      (∀ o ∈ offered s targetType asked, (s.store.load targetType o.value.entityId).isSome) ∧
      ∀ chosen : List Offer, (∀ o ∈ chosen, o ∈ offered s targetType asked) →
        (∀ o ∈ chosen, o.value.entityId.IsPlain) →
        (OptionValue.selectedIds (chosen.map fun o => o.option.value)).Nodup ∧
        OptionValue.selectedIds (chosen.map fun o => o.option.value) =
          Lookup.distinct ((chosen.filter fun o => o.option.value != "").map
            (·.value.entityId)) := by
  refine ⟨fun _ => OptionValue.decode_encode, OptionValue.encode_decode,
    fun targetType asked result h => ⟨?_, fun _ => isSome_load_of_mem_offered built,
      fun chosen _ plain => ⟨nodup_selectedIds _, selectedIds_map_value plain⟩⟩⟩
  obtain ⟨rfl, -⟩ := of_options registry built hidden h
  rw [options_ofGroups, List.flatMap_map, offered, List.map_flatMap]

theorem options_round_trip_zoo :
    ((options "node" ["plant", "animal"]).on zooService).1 = .ok (.grouped
      [⟨"Plant", [⟨"2", "Oak"⟩]⟩,
        ⟨"Animal", [⟨"1", "Fox"⟩, ⟨"1:3:a", "3:a"⟩, ⟨"1:Reynard", "Reynard"⟩, ⟨"3", "Owl"⟩]⟩]) ∧
    (⟨⟨⟨"1"⟩, some "3:a"⟩, "3:a"⟩ : Offer) ∈ offered zooService "node" ["plant", "animal"] ∧
    (⟨"1"⟩ : EntityId).IsPlain ∧
    OptionValue.decode (OptionValue.encode ⟨⟨"1"⟩, some "3:a"⟩) = ⟨⟨"1"⟩, some "3:a"⟩ ∧
    OptionValue.selectedIds ["1:3:a", "3", "1"] = [⟨"1"⟩, ⟨"3"⟩] := by
  have hlisted : ((options "node" ["plant", "animal"]).on zooService).1 = .ok (.grouped
      [⟨"Plant", [⟨"2", "Oak"⟩]⟩,
        ⟨"Animal", [⟨"1", "Fox"⟩, ⟨"1:3:a", "3:a"⟩, ⟨"1:Reynard", "Reynard"⟩, ⟨"3", "Owl"⟩]⟩]) := by
    decide +kernel
  have hoffered : ∀ o ∈ ([⟨⟨⟨"1"⟩, some "3:a"⟩, "3:a"⟩, ⟨⟨⟨"3"⟩, none⟩, "Owl"⟩,
      ⟨⟨⟨"1"⟩, none⟩, "Fox"⟩] : List Offer), o ∈ offered zooService "node" ["plant", "animal"] := by
    decide +kernel
  have plain : ∀ o ∈ ([⟨⟨⟨"1"⟩, some "3:a"⟩, "3:a"⟩, ⟨⟨⟨"3"⟩, none⟩, "Owl"⟩,
      ⟨⟨⟨"1"⟩, none⟩, "Fox"⟩] : List Offer), o.value.entityId.IsPlain := by decide
  obtain ⟨hread, -, hselected⟩ := options_round_trip (s := zooService) rfl built_zooStore rfl
  obtain ⟨-, -, hchosen⟩ := hselected "node" ["plant", "animal"] _ hlisted
  exact ⟨hlisted, hoffered _ List.mem_cons_self, plain _ List.mem_cons_self,
    hread _ (plain _ List.mem_cons_self), (hchosen _ hoffered plain).2⟩

def lonelyService (id : String) : Service :=
  let node : EntityType :=
    { id := "node", keys := { bundle := some "type", label := some "title" } }
  let fox : Entity := { entityType := "node", bundle := "animal", id := ⟨id⟩, label := some "Fox" }
  { backend := { store := ((({} : Store).mapSchema (·.insertEntityType node)).mapSchema
      (·.insertBundle "node" ⟨"animal", "Animal"⟩)).insertEntity fox } }

/-- An id with a colon is read as another id with a synonym, so another entity is selected; and an
entity with an empty id cannot be selected by its label. -/
theorem option_values_lost :
    OptionValue.decode (OptionValue.encode ⟨⟨"urn:7"⟩, none⟩) ≠ ⟨⟨"urn:7"⟩, none⟩ ∧
    OptionValue.encode ⟨⟨"urn:7"⟩, none⟩ = OptionValue.encode ⟨⟨"urn"⟩, some "7"⟩ ∧
    ((options "node" []).on (lonelyService "urn:7")).1 = .ok (.flat [⟨"urn:7", "Fox"⟩]) ∧
    OptionValue.selectedIds ["urn:7"] = [⟨"urn"⟩] ∧
    ((options "node" []).on (lonelyService "")).1 = .ok (.flat [⟨"", "Fox"⟩]) ∧
    OptionValue.selectedIds [""] = [] := by
  refine ⟨?_, ?_, ?_, ?_, ?_, ?_⟩ <;> decide +kernel

end Select
end SynonymLookup
