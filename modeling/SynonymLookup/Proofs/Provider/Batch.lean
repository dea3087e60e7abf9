import SynonymLookup.Proofs.Backend
import SynonymLookup.Proofs.Provider.ReferenceSearch
import SynonymLookup.Proofs.Provider.Registry
import SynonymLookup.Proofs.Store.Consistent

/-! Extraction for several entities at once. Built-in providers give for each entity what they give
for it alone, whether they load the targets of all references together or not, and also where
loading them fails or leaves some out. -/

namespace SynonymLookup

namespace ReferenceProvider

variable {b : Backend}

theorem get?_targets (built : b.store.Built) (targetType : String) {ids : List EntityId}
    {id : EntityId} (hid : id ∈ ids) : (targets b targetType ids).get? id.text =
      if (b.outages.allow .loadMultiple).isOk then
        (b.store.load targetType id).filter fun _ => !b.outages.hidden.contains id
      else none := by
  have hsome : ids.isEmpty = false := by
    cases ids with
    | nil => cases hid
    | cons _ _ => rfl
  rw [targets, hsome, if_neg Bool.false_ne_true, Backend.loadAll]
  cases b.outages.allow .loadMultiple with
  | error e => rfl
  | ok _ =>
    have hget := built.consistent.get?_loadAll targetType hid
    show ((b.store.loadAll targetType ids).filter fun id _ => !b.outages.hidden.contains ⟨id⟩).get?
      id.text = (b.store.load targetType id).filter _
    rw [KeyMap.get?_filter, hget]

/-- The labels of an entity's targets are the same when more targets are loaded. -/
theorem labels_targets (built : b.store.Built) (targetType : String) {ids every : List EntityId}
    (h : ∀ id ∈ ids, id ∈ every) :
    labels ids (targets b targetType every) = labels ids (targets b targetType ids) := by
  have hget : (ids.filterMap fun id => (targets b targetType every).get? id.text) =
      ids.filterMap fun id => (targets b targetType ids).get? id.text :=
    List.filterMap_congr fun id hid => by
      rw [get?_targets built targetType (h id hid), get?_targets built targetType hid]
  rw [labels, labels, hget]

theorem mem_values_ofList_ids {ids : List EntityId} {id : EntityId} (h : id ∈ ids) :
    id ∈ (KeyMap.ofList (ids.map fun id => (id.text, id))).values := by
  refine KeyMap.mem_values_iff.2 ⟨id.text, KeyMap.get?_ofList_of_unique ?_ fun w hw => ?_⟩
  · exact List.mem_map_of_mem h
  · obtain ⟨w', -, hpair⟩ := List.mem_map.1 hw
    obtain ⟨htext, rfl⟩ := Prod.mk.injEq .. ▸ hpair
    cases w'
    cases id
    exact congrArg EntityId.mk htext

theorem synonymsOfAll_eq (built : b.store.Built) (d : ProviderDefinition) {entities : KeyMap Entity}
    (single : ensureSingleBundle entities.values = .ok ()) :
    synonymsOfAll d b entities = .ok (entities.map (synonyms d b)) := by
  rw [synonymsOfAll, single]
  unfold synonyms
  cases targetType? b d with
  | none => rfl
  | some t =>
    refine congrArg Except.ok ((KeyMap.map_map ..).trans (KeyMap.map_congr fun e he => ?_))
    refine labels_targets built t fun id hid => mem_values_ofList_ids ?_
    rw [KeyMap.values_map]
    exact List.mem_flatten.2 ⟨_, List.mem_map_of_mem he, hid⟩

end ReferenceProvider

def Entity.Mixed (l : List Entity) : Prop :=
  ∃ e ∈ l, ∃ e' ∈ l, e.entityType ≠ e'.entityType ∨ e.bundle ≠ e'.bundle

theorem of_ensureSingleBundle {first e : Entity} {rest : List Entity}
    (h : ensureSingleBundle (first :: rest) = .ok ()) (he : e ∈ first :: rest) :
    e.entityType = first.entityType ∧ e.bundle = first.bundle := by
  rcases List.mem_cons.1 he with rfl | he
  · exact ⟨rfl, rfl⟩
  · rw [ensureSingleBundle] at h
    split at h
    · rename_i hnone
      simpa using List.find?_eq_none.1 hnone e he
    · cases h

theorem not_mixed_of_ensureSingleBundle {l : List Entity} (h : ensureSingleBundle l = .ok ()) :
    ¬Entity.Mixed l := by
  rintro ⟨e, he, e', he', hdiffer⟩
  cases l with
  | nil => cases he
  | cons first rest =>
    obtain ⟨htype, hbundle⟩ := of_ensureSingleBundle h he
    obtain ⟨htype', hbundle'⟩ := of_ensureSingleBundle h he'
    rcases hdiffer with hdiffer | hdiffer
    · exact hdiffer (htype.trans htype'.symm)
    · exact hdiffer (hbundle.trans hbundle'.symm)

/-- Entities are refused for one that differs from the first. -/
theorem mixed_of_ensureSingleBundle {l : List Entity} {e : LookupError}
    (h : ensureSingleBundle l = .error e) :
    Entity.Mixed l ∧ ∃ message, e = .preconditionFailed message := by
  cases l with
  | nil => cases h
  | cons first rest =>
    rw [ensureSingleBundle] at h
    split at h
    · cases h
    · rename_i other hother
      have hmem := List.mem_cons_of_mem first (List.mem_of_find?_eq_some hother)
      have hdiffer : other.entityType ≠ first.entityType ∨ other.bundle ≠ first.bundle := by
        simpa using List.find?_some hother
      cases h
      exact ⟨⟨other, hmem, first, List.mem_cons_self, hdiffer⟩, _, rfl⟩

section Builtin

variable {base : ProviderBase} {b : Backend} {entities : KeyMap Entity}

/-- What a built-in provider extracts for entities of one bundle is what it extracts for each. -/
theorem Registry.synonymsOfAll_of_single (h : base ∈ Registry.builtin) (s : Schema)
    (d : ProviderDefinition) (settings : ProviderConfiguration) (built : b.store.Built)
    (single : ensureSingleBundle entities.values = .ok ()) :
    (base.create s d settings).synonymsOfAll b entities =
      .ok (entities.map ((base.create s d settings).synonyms b)) := by
  have hdefault (synonyms : Backend → Entity → List String) : (do
      ensureSingleBundle entities.values
      return entities.map (synonyms b) : Except LookupError (KeyMap (List String))) =
        .ok (entities.map (synonyms b)) := by
    rw [single]
    rfl
  rcases Registry.mem_builtin.1 h with rfl | rfl | rfl
  · exact hdefault (FieldProvider.create s d settings).synonyms
  · exact hdefault (FieldProvider.create s d settings).synonyms
  · exact ReferenceProvider.synonymsOfAll_eq built d single

theorem Registry.synonymsOfAll_of_create {s : Schema} {plugin : String}
    {settings : ProviderConfiguration} {p : Provider}
    (h : Registry.builtin.create s plugin settings = .ok p) (built : b.store.Built)
    (single : ensureSingleBundle entities.values = .ok ()) :
    p.synonymsOfAll b entities = .ok (entities.map (p.synonyms b)) := by
  obtain ⟨base, hbase, d, -, -, rfl⟩ := Registry.create_eq_ok h
  exact Registry.synonymsOfAll_of_single hbase s d settings built single

theorem Registry.synonymsOfAll_of_refused (h : base ∈ Registry.builtin) (s : Schema)
    (d : ProviderDefinition) (settings : ProviderConfiguration) {e : LookupError}
    (refused : ensureSingleBundle entities.values = .error e) :
    (base.create s d settings).synonymsOfAll b entities = .error e := by
  have hdefault (synonyms : Backend → Entity → List String) : (do
      ensureSingleBundle entities.values
      return entities.map (synonyms b) : Except LookupError (KeyMap (List String))) = .error e := by
    rw [refused]
    rfl
  rcases Registry.mem_builtin.1 h with rfl | rfl | rfl
  · exact hdefault (FieldProvider.create s d settings).synonyms
  · exact hdefault (FieldProvider.create s d settings).synonyms
  · show ReferenceProvider.synonymsOfAll d b entities = .error e
    rw [ReferenceProvider.synonymsOfAll, refused]
    rfl

/-- Extraction for several entities at once is refused exactly if two of them differ in type or
bundle. Otherwise each has the synonyms that it has alone, whatever the schema was when the provider
was made and is now, and whether or not the definition is one that was derived from it. -/
theorem extraction_batched (h : base ∈ Registry.builtin) (s : Schema) (d : ProviderDefinition)
    (settings : ProviderConfiguration) (built : b.store.Built) (entities : KeyMap Entity) :
    ((∃ message, (base.create s d settings).synonymsOfAll b entities =
      .error (.preconditionFailed message)) ↔ Entity.Mixed entities.values) ∧
    (¬Entity.Mixed entities.values → ∃ found,
      (base.create s d settings).synonymsOfAll b entities = .ok found ∧ found.keys = entities.keys ∧
      ∀ id e, entities.get? id = some e →
        found.get? id = some ((base.create s d settings).synonyms b e)) := by
  cases hsingle : ensureSingleBundle entities.values with
  | ok _ =>
    have hmixed := not_mixed_of_ensureSingleBundle hsingle
    have hfound := Registry.synonymsOfAll_of_single h s d settings built hsingle
    refine ⟨⟨fun ⟨_, hrefused⟩ => ?_, fun hm => absurd hm hmixed⟩, fun _ => ⟨_, hfound, ?_, ?_⟩⟩
    · rw [hfound] at hrefused
      cases hrefused
    · simp [KeyMap.keys, KeyMap.map]
    · intro id e he
      rw [KeyMap.get?_map, he]
      rfl
  | error e =>
    obtain ⟨hmixed, message, rfl⟩ := mixed_of_ensureSingleBundle hsingle
    have hrefused := Registry.synonymsOfAll_of_refused (b := b) h s d settings hsingle
    exact ⟨⟨fun _ => hmixed, fun _ => ⟨message, hrefused⟩⟩, fun hm => absurd hmixed hm⟩

end Builtin

def authoredPages : KeyMap Entity :=
  let page (id : String) (authors : List EntityId) : Entity :=
    { entityType := "node", bundle := "page", id := ⟨id⟩ : Entity }.withReferences "author" authors
  (KeyMap.empty.insert "1" (page "1" [⟨"2"⟩, ⟨"9"⟩, ⟨"3"⟩, ⟨"2"⟩])).insert "4" (page "4" [])

def namelessStore : Store :=
  (ReferenceProvider.authorStore "user").insertEntity
    { entityType := "user", bundle := "user", id := ⟨"3"⟩ }

theorem extraction_batched_pages :
    ReferenceProvider.base ∈ Registry.builtin ∧ namelessStore.Built ∧
    ¬Entity.Mixed authoredPages.values ∧
    ∃ found, (ReferenceProvider.base.create {} ReferenceProvider.authorDefinition {}).synonymsOfAll
        { store := namelessStore } authoredPages = .ok found ∧
      found.keys = ["1", "4"] ∧ found.get? "1" = some ["Ann", "Ann"] ∧
      found.get? "4" = some [] := by
  have hbase : ReferenceProvider.base ∈ Registry.builtin := Registry.mem_builtin.2 (.inr (.inr rfl))
  have built : namelessStore.Built := .insertEntity _ (ReferenceProvider.built_authorStore "user")
  have hsingle : ensureSingleBundle authoredPages.values = .ok () := by decide
  have hmixed := not_mixed_of_ensureSingleBundle hsingle
  obtain ⟨-, hfound⟩ := extraction_batched hbase {} ReferenceProvider.authorDefinition {}
    (b := { store := namelessStore }) built authoredPages
  obtain ⟨found, hok, hkeys, hget⟩ := hfound hmixed
  refine ⟨hbase, built, hmixed, found, hok, hkeys.trans (by decide), ?_, ?_⟩
  · rw [hget "1" _ rfl]
    decide +kernel
  · rw [hget "4" _ rfl]
    decide +kernel

end SynonymLookup
