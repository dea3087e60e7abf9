import SynonymLookup.Proofs.KeyMap
import SynonymLookup.Store.Basic

/-! Stores as they come about by edits: every type is kept under its own id, every entity under its
own type and id, and every bundle of a type once. -/

namespace SynonymLookup
namespace Store

/-- The stores that edits, flags and queries make from an empty one. -/
inductive Built : Store → Prop
  | empty : Built {}
  | insertEntityType {s : Store} (t : EntityType) : Built s →
      Built (s.mapSchema fun schema => schema.insertEntityType t)
  | insertBundle {s : Store} (entityType : String) (b : Bundle) : Built s →
      Built (s.mapSchema fun schema => schema.insertBundle entityType b)
  | insertField {s : Store} (entityType bundle : String) (f : Field) : Built s →
      Built (s.mapSchema fun schema => schema.insertField entityType bundle f)
  | removeField {s : Store} (entityType bundle name : String) : Built s →
      Built (s.mapSchema fun schema => schema.removeField entityType bundle name)
  | insertEntity {s : Store} (e : Entity) : Built s → Built (s.insertEntity e)
  | removeEntity {s : Store} (entityType : String) (id : EntityId) : Built s →
      Built (s.removeEntity entityType id)
  | mark {s : Store} (entityType : String) (ids : List EntityId) : Built s →
      Built (s.mark entityType ids)
  | executed {s : Store} : Built s → Built { s with executed := s.executed + 1 }

structure Consistent (s : Store) : Prop where
  entityType_id : ∀ {id t}, s.schema.entityType? id = some t → t.id = id
  entity_keys : ∀ {entityType id e}, (s.entitiesOf entityType).get? id = some e →
    e.entityType = entityType ∧ e.id.text = id

theorem get?_entitiesOf_insertEntity (s : Store) (e : Entity) (entityType id : String) :
    ((s.insertEntity e).entitiesOf entityType).get? id =
      if e.entityType = entityType ∧ e.id.text = id then some e
      else (s.entitiesOf entityType).get? id := by
  unfold insertEntity entitiesOf KeyMap.update
  rw [KeyMap.get?_insert]
  by_cases ht : e.entityType = entityType
  · subst ht
    simp
  · simp [ht]

theorem get?_entitiesOf_removeEntity {s : Store} {entityType entityType' id' : String}
    {id : EntityId} {e : Entity}
    (h : ((s.removeEntity entityType id).entitiesOf entityType').get? id' = some e) :
    (s.entitiesOf entityType').get? id' = some e := by
  unfold removeEntity at h
  split at h
  · exact h
  · rename_i m hm
    unfold entitiesOf at h ⊢
    rw [KeyMap.get?_insert] at h
    split at h
    · rename_i ht
      subst ht
      rw [hm]
      rw [Option.getD_some, KeyMap.get?_erase] at h
      split at h
      · cases h
      · exact h
    · exact h

theorem load_insertEntity (s : Store) (e : Entity) (entityType : String) (id : EntityId) :
    (s.insertEntity e).load entityType id =
      if e.entityType = entityType ∧ e.id.text = id.text then some e else s.load entityType id :=
  get?_entitiesOf_insertEntity s e entityType id.text

theorem load_removeEntity (s : Store) (entityType : String) (id : EntityId) :
    (s.removeEntity entityType id).load entityType id = none := by
  cases hm : s.entities.get? entityType with
  | none => simp [removeEntity, load, entitiesOf, hm]
  | some m => simp [removeEntity, load, entitiesOf, hm]

theorem schema_removeEntity (s : Store) (entityType : String) (id : EntityId) :
    (s.removeEntity entityType id).schema = s.schema := by
  unfold removeEntity
  split <;> rfl

theorem Consistent.values_sorted {s : Store} (h : s.Consistent) (entityType : String) :
    (s.entitiesOf entityType).values.Pairwise fun e e' => e.id.text < e'.id.text := by
  unfold KeyMap.values
  rw [List.pairwise_map]
  refine List.Pairwise.imp_of_mem ?_ (s.entitiesOf entityType).sorted
  intro x y hx hy hlt
  have hxid := (h.entity_keys (KeyMap.get?_eq_some_iff.2 hx)).2
  have hyid := (h.entity_keys (KeyMap.get?_eq_some_iff.2 hy)).2
  rw [hxid, hyid]
  exact hlt

theorem Consistent.ids_nodup {s : Store} (h : s.Consistent) (entityType : String) :
    ((s.entitiesOf entityType).values.map Entity.id).Nodup :=
  List.pairwise_map.2 ((h.values_sorted entityType).imp fun hlt heq =>
    String.ne_of_lt hlt (congrArg EntityId.text heq))

theorem Consistent.id_of_load {s : Store} (h : s.Consistent) {entityType : String} {id : EntityId}
    {e : Entity} (he : s.load entityType id = some e) : e.entityType = entityType ∧ e.id = id := by
  obtain ⟨htype, hid⟩ := h.entity_keys he
  refine ⟨htype, ?_⟩
  cases hide : e.id
  cases id
  rw [hide] at hid
  exact congrArg EntityId.mk hid

theorem Consistent.load_of_mem {s : Store} (h : s.Consistent) {entityType : String} {e : Entity}
    (he : e ∈ (s.entitiesOf entityType).values) : s.load entityType e.id = some e := by
  obtain ⟨key, hkey⟩ := KeyMap.mem_values_iff.1 he
  rw [load, (h.entity_keys hkey).2]
  exact hkey

theorem Consistent.get?_loadAll {s : Store} (h : s.Consistent) (entityType : String)
    {ids : List EntityId} {id : EntityId} (hid : id ∈ ids) :
    (s.loadAll entityType ids).get? id.text = s.load entityType id := by
  unfold loadAll
  have only : ∀ e,
      (id.text, e) ∈ (ids.filterMap (s.load entityType)).map (fun e => (e.id.text, e)) →
        s.load entityType id = some e := by
    intro e he
    simp only [List.mem_map, List.mem_filterMap, Prod.mk.injEq] at he
    obtain ⟨e', ⟨id', -, hload⟩, htext, rfl⟩ := he
    have hsame := (h.id_of_load hload).2
    rw [hsame] at htext
    have : id' = id := by
      cases id'
      cases id
      exact congrArg EntityId.mk htext
    rw [← this, hload]
  cases hload : s.load entityType id with
  | none =>
    rw [KeyMap.get?_ofList, KeyMap.findEntry_eq_none_iff]
    intro x hx hkey
    obtain ⟨text, e⟩ := x
    dsimp only at hkey
    subst hkey
    rw [only e (List.mem_reverse.1 hx)] at hload
    cases hload
  | some e =>
    have hsame := (h.id_of_load hload).2
    apply KeyMap.get?_ofList_of_unique
    · exact List.mem_map.2 ⟨e, List.mem_filterMap.2 ⟨id, hid, hload⟩, by rw [hsame]⟩
    · intro w hw
      have hw := only w hw
      rw [hload] at hw
      exact (Option.some.inj hw).symm

theorem Consistent.insertEntityType {s : Store} (h : s.Consistent) (t : EntityType) :
    (s.mapSchema fun schema => schema.insertEntityType t).Consistent where
  entityType_id := by
    intro id t' ht'
    replace ht' : (s.schema.entityTypes.insert t.id t).get? id = some t' := ht'
    rw [KeyMap.get?_insert] at ht'
    split at ht'
    · rename_i hid
      cases ht'
      exact hid
    · exact h.entityType_id ht'
  entity_keys := h.entity_keys

theorem Consistent.insertField {s : Store} (h : s.Consistent) (entityType bundle : String)
    (f : Field) : (s.mapSchema fun schema =>
      schema.insertField entityType bundle f).Consistent where
  entityType_id := by
    intro id t ht
    refine h.entityType_id ?_
    simp only [mapSchema, Schema.insertField] at ht
    split at ht <;> exact ht
  entity_keys := h.entity_keys

theorem Consistent.insertEntity {s : Store} (h : s.Consistent) (e : Entity) :
    (s.insertEntity e).Consistent where
  entityType_id := h.entityType_id
  entity_keys := by
    intro entityType id e' he
    rw [get?_entitiesOf_insertEntity] at he
    split at he
    · rename_i hkeys
      cases he
      exact hkeys
    · exact h.entity_keys he

theorem Consistent.removeEntity {s : Store} (h : s.Consistent) (entityType : String)
    (id : EntityId) : (s.removeEntity entityType id).Consistent where
  entityType_id := by
    intro id' t ht
    refine h.entityType_id ?_
    unfold Store.removeEntity at ht
    split at ht <;> exact ht
  entity_keys := fun he => h.entity_keys (get?_entitiesOf_removeEntity he)

theorem Built.consistent {s : Store} (built : s.Built) : s.Consistent := by
  induction built with
  | empty => exact ⟨fun h => (Option.some_ne_none _ h.symm).elim, fun h => by cases h⟩
  | insertEntityType t _ ih => exact ih.insertEntityType t
  | insertBundle entityType b _ ih => exact ⟨ih.entityType_id, ih.entity_keys⟩
  | insertField entityType bundle f _ ih => exact ih.insertField entityType bundle f
  | removeField entityType bundle name _ ih => exact ⟨ih.entityType_id, ih.entity_keys⟩
  | insertEntity e _ ih => exact ih.insertEntity e
  | removeEntity entityType id _ ih => exact ih.removeEntity entityType id
  | mark entityType ids _ ih => exact ⟨ih.entityType_id, ih.entity_keys⟩
  | executed _ ih => exact ⟨ih.entityType_id, ih.entity_keys⟩

theorem nodup_map_replaceAtEnd {α : Type} {name : α → String} {l : List α}
    (h : (l.map name).Nodup) (entry : α) : ((replaceAtEnd name entry l).map name).Nodup := by
  have hkept : ((l.filter fun a => name a != name entry).map name).Nodup :=
    h.sublist (List.filter_sublist.map name)
  rw [replaceAtEnd, List.map_append, List.nodup_append]
  refine ⟨hkept, List.pairwise_singleton _ _, fun x hx y hy hxy => ?_⟩
  obtain ⟨a, ha, rfl⟩ := List.mem_map.1 hx
  have hne : name a ≠ name entry := by simpa using (List.mem_filter.1 ha).2
  exact hne (hxy.trans (List.mem_singleton.1 hy))

/-- Bundles are kept under each type without repetition: a new one takes the place of
that with its id. -/
theorem Built.bundles_nodup {s : Store} (built : s.Built) {entityType : String} {l : List Bundle}
    (hl : s.schema.bundles.get? entityType = some l) : (l.map Bundle.id).Nodup := by
  induction built generalizing l with
  | empty => exact (Option.some_ne_none _ hl.symm).elim
  | insertEntityType _ _ ih => exact ih hl
  | @insertBundle s entityType' b _ ih =>
    replace hl : (s.schema.bundles.insert entityType'
      (replaceAtEnd Bundle.id b ((s.schema.bundles.get? entityType').getD []))).get? entityType =
        some l := hl
    rw [KeyMap.get?_insert] at hl
    by_cases htype : entityType' = entityType
    · rw [if_pos htype, Option.some.injEq] at hl
      subst hl
      refine nodup_map_replaceAtEnd ?_ b
      cases hold : s.schema.bundles.get? entityType' with
      | none => exact List.nodup_nil
      | some old => exact ih (htype ▸ hold)
    · rw [if_neg htype] at hl
      exact ih hl
  | insertField entityType' bundle f _ ih =>
    simp only [mapSchema, Schema.insertField] at hl
    split at hl <;> exact ih hl
  | removeField _ _ _ _ ih => exact ih hl
  | insertEntity _ _ ih => exact ih hl
  | removeEntity entityType' id _ ih =>
    rw [schema_removeEntity] at hl
    exact ih hl
  | mark _ _ _ ih => exact ih hl
  | executed _ ih => exact ih hl

theorem Built.bundleIds_nodup {s : Store} (built : s.Built) (entityType : String) :
    (s.schema.bundleIds entityType).Nodup := by
  rw [Schema.bundleIds, Schema.bundlesOf]
  cases s.schema.entityType? entityType with
  | none => exact List.nodup_nil
  | some t =>
    by_cases hbundles : t.hasBundles = true
    · simp only [if_pos hbundles]
      cases hl : s.schema.bundles.get? entityType with
      | none => exact List.nodup_nil
      | some l => exact built.bundles_nodup hl
    · simp only [if_neg hbundles]
      exact List.pairwise_singleton _ _

end Store
end SynonymLookup
