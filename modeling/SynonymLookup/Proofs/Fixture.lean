import SynonymLookup.Fixture
import SynonymLookup.Proofs.KeyMap.Series

/-! Applying a dataset. Each part of the state changes on its own: the last entry of each key
replaces what was there, lists of bundles and fields keep what the dataset does not name and end
with its last entries, and all else stays. A dataset that is applied again changes nothing. -/

namespace SynonymLookup

open KeyMap

namespace Schema

def putBundle (l : List Bundle) (e : String × Bundle) : List Bundle := replaceAtEnd Bundle.id e.2 l

def putField (l : List Field) (d : FixtureField) : List Field :=
  replaceAtEnd Field.name d.definition l

def putOwnField (m : KeyMap (List Field)) (d : FixtureField) : KeyMap (List Field) :=
  m.update d.bundle fun l => putField (l.getD []) d

theorem foldl_insertEntityType (s : Schema) (l : List EntityType) : l.foldl insertEntityType s =
    { s with entityTypes := s.entityTypes.insertAll (l.map fun t => (t.id, t)) } := by
  induction l generalizing s with
  | nil => rfl
  | cons t rest ih =>
    rw [List.foldl_cons, ih]
    rfl

theorem foldl_insertBundle (s : Schema) (l : List (String × Bundle)) :
    l.foldl (fun s e => s.insertBundle e.1 e.2) s =
      { s with bundles := changeAll Prod.fst [] putBundle s.bundles l } := by
  induction l generalizing s with
  | nil => rfl
  | cons e rest ih =>
    rw [List.foldl_cons, ih]
    rfl

theorem foldl_insertField (s : Schema) (l : List FixtureField) :
    l.foldl (fun s d => s.insertField d.entityType d.bundle d.definition) s =
      { s with
        baseFields := changeAll FixtureField.entityType [] putField s.baseFields
          (l.filter fun d => d.definition.base)
        bundleFields := changeAll FixtureField.entityType .empty putOwnField s.bundleFields
          (l.filter fun d => !d.definition.base) } := by
  induction l generalizing s with
  | nil => rfl
  | cons d rest ih =>
    rw [List.foldl_cons, ih]
    cases hbase : d.definition.base with
    | true => simp [insertField, hbase, changeAll, putField]
    | false => simp [insertField, hbase, changeAll, putField, putOwnField]

end Schema

def Store.putEntity (m : KeyMap Entity) (e : Entity) : KeyMap Entity := m.insert e.id.text e

theorem Store.foldl_insertEntity (s : Store) (l : List Entity) : l.foldl Store.insertEntity s =
    { s with entities := changeAll Entity.entityType .empty putEntity s.entities l } := by
  induction l generalizing s with
  | nil => rfl
  | cons e rest ih =>
    rw [List.foldl_cons, ih]
    rfl

namespace Fixture

open Schema

section Parts

variable (f : Fixture)

def bundleEntries : List (String × Bundle) := f.bundles.entries.flatMap fun e =>
  e.2.map fun b => (e.1, b)

def baseFields : List FixtureField := f.fields.filter fun d => d.definition.base

def ownFields : List FixtureField := f.fields.filter fun d => !d.definition.base

/-- The four parts of a schema change on their own. -/
theorem applySchema_eq (s : Schema) : f.applySchema s =
    { entityTypes := s.entityTypes.insertAll (f.entityTypes.map fun t => (t.id, t))
      bundles := changeAll Prod.fst [] putBundle s.bundles f.bundleEntries
      baseFields := changeAll FixtureField.entityType [] putField s.baseFields f.baseFields
      bundleFields := changeAll FixtureField.entityType .empty putOwnField s.bundleFields
        f.ownFields } := by
  have hbundles (s : Schema) :
      f.bundles.entries.foldl (fun s e => e.2.foldl (fun s b => s.insertBundle e.1 b) s) s =
        f.bundleEntries.foldl (fun s e => s.insertBundle e.1 e.2) s := by
    rw [bundleEntries, List.foldl_flatMap]
    simp only [List.foldl_map]
  rw [applySchema, foldl_insertEntityType, hbundles, foldl_insertBundle, foldl_insertField]
  rfl

theorem applyStore_eq (s : Store) : f.applyStore s =
    { s with
      schema := f.applySchema s.schema
      entities := changeAll Entity.entityType .empty Store.putEntity s.entities f.entities } := by
  rw [applyStore, Store.foldl_insertEntity]
  rfl

end Parts

section Again

theorem foldl_putBundle (l : List Bundle) (entries : List (String × Bundle)) :
    entries.foldl putBundle l = replaceAllAtEnd Bundle.id l (entries.map (·.2)) := by
  rw [replaceAllAtEnd, List.foldl_map]
  rfl

theorem foldl_putField (l : List Field) (fields : List FixtureField) :
    fields.foldl putField l = replaceAllAtEnd Field.name l (fields.map (·.definition)) := by
  rw [replaceAllAtEnd, List.foldl_map]
  rfl

theorem foldl_putOwnField (m : KeyMap (List Field)) (fields : List FixtureField) :
    fields.foldl putOwnField m = changeAll FixtureField.bundle [] putField m fields := rfl

theorem foldl_putEntity (m : KeyMap Entity) (entities : List Entity) :
    entities.foldl Store.putEntity m = m.insertAll (entities.map fun e => (e.id.text, e)) := by
  rw [insertAll, List.foldl_map]
  rfl

variable (f : Fixture)

theorem applySchema_again (s : Schema) : f.applySchema (f.applySchema s) = f.applySchema s := by
  have hbundle (l : List Bundle) (entries : List (String × Bundle)) :
      entries.foldl putBundle (entries.foldl putBundle l) = entries.foldl putBundle l := by
    simp only [foldl_putBundle, replaceAllAtEnd_again]
  have hfield (l : List Field) (fields : List FixtureField) :
      fields.foldl putField (fields.foldl putField l) = fields.foldl putField l := by
    simp only [foldl_putField, replaceAllAtEnd_again]
  have hown (m : KeyMap (List Field)) (fields : List FixtureField) :
      fields.foldl putOwnField (fields.foldl putOwnField m) = fields.foldl putOwnField m := by
    simp only [foldl_putOwnField, changeAll_again _ _ _ hfield]
  simp only [applySchema_eq, insertAll_again, changeAll_again _ _ _ hbundle,
    changeAll_again _ _ _ hfield, changeAll_again _ _ _ hown]

theorem applyStore_again (s : Store) : f.applyStore (f.applyStore s) = f.applyStore s := by
  have hentity (m : KeyMap Entity) (entities : List Entity) :
      entities.foldl Store.putEntity (entities.foldl Store.putEntity m) =
        entities.foldl Store.putEntity m := by
    simp only [foldl_putEntity, insertAll_again]
  simp only [applyStore_eq, applySchema_again, changeAll_again _ _ _ hentity]

theorem applyBlobs_again (b : Blobs) : f.applyBlobs (f.applyBlobs b) = f.applyBlobs b :=
  insertAll_again b f.config.entries

end Again

section Last

variable (f : Fixture)

def lastEntity? (entityType : String) (id : EntityId) : Option Entity :=
  f.entities.reverse.find? fun e => e.entityType == entityType && e.id == id

def lastEntityType? (id : String) : Option EntityType :=
  f.entityTypes.reverse.find? fun t => t.id == id

def bundlesFor (entityType : String) : List Bundle := (f.bundles.get? entityType).getD []

/-- The base fields of a type, whatever bundles they are listed with. -/
def baseFieldsFor (entityType : String) : List Field :=
  (f.fields.filter fun d => d.definition.base && d.entityType == entityType).map (·.definition)

def ownFieldsFor (entityType bundle : String) : List Field :=
  (f.fields.filter fun d => !d.definition.base && d.entityType == entityType &&
    d.bundle == bundle).map (·.definition)

theorem load_applyStore (s : Store) (entityType : String) (id : EntityId) :
    (f.applyStore s).load entityType id = (f.lastEntity? entityType id).or
      (s.load entityType id) := by
  have hid (e : Entity) : (e.id.text == id.text) = (e.id == id) := by
    rw [Bool.eq_iff_iff, beq_iff_eq, beq_iff_eq, EntityId.mk.injEq]
  have hlast : ((f.entities.filter fun e => e.entityType == entityType).reverse.find?
      fun e => e.id.text == id.text) = f.lastEntity? entityType id := by
    simp only [← List.filter_reverse, List.find?_filter, hid, Bool.decide_and, Bool.decide_eq_true]
    rfl
  rw [Store.load, Store.entitiesOf, applyStore_eq, getD_changeAll, foldl_putEntity, get?_insertAll,
    ← List.map_reverse, findEntry_map_key, hlast]
  rfl

theorem entityType?_applySchema (s : Schema) (id : String) :
    (f.applySchema s).entityType? id = (f.lastEntityType? id).or (s.entityType? id) := by
  rw [entityType?, applySchema_eq, get?_insertAll, ← List.map_reverse, findEntry_map_key]
  rfl

theorem filter_bundleEntries (entityType : String) :
    (f.bundleEntries.filter fun e => e.1 == entityType).map (·.2) = f.bundlesFor entityType := by
  have hpart (e : String × List Bundle) :
      ((e.2.map fun b => (e.1, b)).filter fun e => e.1 == entityType).map (·.2) =
        if e.1 = entityType then e.2 else [] := by
    by_cases he : e.1 = entityType <;> simp [List.filter_map, Function.comp_def, he]
  rw [bundleEntries, List.filter_flatMap, List.map_flatMap]
  simp only [hpart]
  rw [flatMap_entries f.bundles (fun l => l), Option.map_id']
  rfl

/-- The bundles of the dataset stand at the end, behind those it does not name. -/
theorem bundles_applySchema (s : Schema) (entityType : String) :
    ((f.applySchema s).bundles.get? entityType).getD [] =
      (((s.bundles.get? entityType).getD []).filter fun b =>
        !hasKey Bundle.id (f.bundlesFor entityType) b.id) ++
        lastsBy Bundle.id (f.bundlesFor entityType) := by
  rw [applySchema_eq, getD_changeAll, foldl_putBundle, filter_bundleEntries, replaceAllAtEnd_eq]

theorem baseFieldsOf_applySchema (s : Schema) (entityType : String) :
    (f.applySchema s).baseFieldsOf entityType =
      ((s.baseFieldsOf entityType).filter fun x =>
        !hasKey Field.name (f.baseFieldsFor entityType) x.name) ++
        lastsBy Field.name (f.baseFieldsFor entityType) := by
  have hfields : (f.baseFields.filter fun d => d.entityType == entityType).map (·.definition) =
      f.baseFieldsFor entityType := by
    rw [baseFields, List.filter_filter, baseFieldsFor]
    simp only [Bool.and_comm]
  rw [baseFieldsOf, applySchema_eq, getD_changeAll, foldl_putField, hfields, replaceAllAtEnd_eq]
  rfl

theorem ownFieldsOf_eq (s : Schema) (entityType bundle : String) : s.ownFieldsOf entityType bundle =
    (((s.bundleFields.get? entityType).getD .empty).get? bundle).getD [] := by
  rw [ownFieldsOf]
  cases s.bundleFields.get? entityType <;> rfl

theorem ownFieldsOf_applySchema (s : Schema) (entityType bundle : String) :
    (f.applySchema s).ownFieldsOf entityType bundle =
      ((s.ownFieldsOf entityType bundle).filter fun x =>
        !hasKey Field.name (f.ownFieldsFor entityType bundle) x.name) ++
        lastsBy Field.name (f.ownFieldsFor entityType bundle) := by
  have hfields : ((f.ownFields.filter fun d => d.entityType == entityType).filter fun d =>
      d.bundle == bundle).map (·.definition) = f.ownFieldsFor entityType bundle := by
    rw [ownFields, List.filter_filter, List.filter_filter, ownFieldsFor]
    simp only [Bool.and_comm, Bool.and_assoc, Bool.and_left_comm]
  rw [ownFieldsOf_eq, applySchema_eq, getD_changeAll, foldl_putOwnField, getD_changeAll,
    foldl_putField, hfields, replaceAllAtEnd_eq, ownFieldsOf_eq]

/-- Of settings written with repeated keys the last one of each key counts. -/
theorem get?_of_written {config : Blobs} {written : List (String × Json)}
    (h : Json.map? Json.any? (.object written) = some config) (key : String) :
    config.get? key = (findEntry key written.reverse).map Json.normalize := by
  have hread : (written.mapM fun e => (Json.any? e.2).map fun value => (e.1, value)) =
      some (written.map fun e => (e.1, e.2.normalize)) := List.mapM_pure
  rw [Json.map?, hread, Option.map_some, Option.some.injEq] at h
  rw [← h, get?_ofList, ← List.map_reverse, findEntry_map]

end Last

section Untouched

variable (f : Fixture)

/-- Something in the dataset is of the type, or is the type itself. -/
def mentions (entityType : String) : Bool :=
  hasKey EntityType.id f.entityTypes entityType || !(f.bundlesFor entityType).isEmpty ||
    hasKey FixtureField.entityType f.fields entityType ||
      hasKey Entity.entityType f.entities entityType

structure SameType (entityType : String) (s s' : Store) : Prop where
  entityTypes : s'.schema.entityTypes.get? entityType = s.schema.entityTypes.get? entityType
  bundles : s'.schema.bundles.get? entityType = s.schema.bundles.get? entityType
  baseFields : s'.schema.baseFields.get? entityType = s.schema.baseFields.get? entityType
  bundleFields : s'.schema.bundleFields.get? entityType = s.schema.bundleFields.get? entityType
  entities : s'.entities.get? entityType = s.entities.get? entityType

variable {f}

theorem hasKey_bundleEntries {entityType : String} (h : f.bundlesFor entityType = []) :
    hasKey Prod.fst f.bundleEntries entityType = false := by
  rw [Bool.eq_false_iff]
  intro hkey
  obtain ⟨e, he, htype⟩ := hasKey_iff.1 hkey
  have hmem : e.2 ∈ (f.bundleEntries.filter fun e => e.1 == entityType).map (·.2) :=
    List.mem_map_of_mem (List.mem_filter.2 ⟨he, beq_iff_eq.2 htype⟩)
  rw [filter_bundleEntries, h] at hmem
  cases hmem

theorem sameType_applyStore {entityType : String} (h : f.mentions entityType = false) (s : Store) :
    SameType entityType s (f.applyStore s) := by
  obtain ⟨⟨⟨htype, hbundles⟩, hfields⟩, hentities⟩ :
      ((hasKey EntityType.id f.entityTypes entityType = false ∧ f.bundlesFor entityType = []) ∧
        hasKey FixtureField.entityType f.fields entityType = false) ∧
        hasKey Entity.entityType f.entities entityType = false := by
    simpa [mentions] using h
  have hpart (p : FixtureField → Bool) :
      hasKey FixtureField.entityType (f.fields.filter p) entityType = false := by
    rw [Bool.eq_false_iff] at hfields ⊢
    intro hkey
    obtain ⟨d, hd, hdtype⟩ := hasKey_iff.1 hkey
    exact hfields (hasKey_iff.2 ⟨d, (List.mem_filter.1 hd).1, hdtype⟩)
  have hunnamed : f.lastEntityType? entityType = none := by
    simpa [lastEntityType?, hasKey] using htype
  rw [applyStore_eq]
  constructor
  · have hfound := f.entityType?_applySchema s.schema entityType
    rwa [hunnamed, Option.none_or] at hfound
  · rw [applySchema_eq, get?_changeAll, hasKey_bundleEntries hbundles]
    rfl
  · rw [applySchema_eq, get?_changeAll, baseFields, hpart]
    rfl
  · rw [applySchema_eq, get?_changeAll, ownFields, hpart]
    rfl
  · rw [get?_changeAll, hentities]
    rfl

end Untouched

/-- A dataset that is applied twice leaves the state it leaves when applied once, down to the order
of bundles and fields. Under each of its keys stands the last entry of the key, and the list of a
type's bundles ends with the dataset's, each id once and in the order of their last entries; so do
the lists of fields. Entities, bundles, settings and types that it does not name stay, and so do the
flags and the count of queries. -/
theorem applied_twice_last_wins (f : Fixture) (s : Store) (b : Blobs) :
    (f.applyStore (f.applyStore s) = f.applyStore s ∧
      f.applyBlobs (f.applyBlobs b) = f.applyBlobs b) ∧
    (∀ entityType id, (f.applyStore s).load entityType id =
      (f.lastEntity? entityType id).or (s.load entityType id)) ∧
    (∀ key, (f.applyBlobs b).get? key = (f.config.get? key).or (b.get? key)) ∧
    (∀ written, Json.map? Json.any? (.object written) = some f.config → ∀ key,
      f.config.get? key = (findEntry key written.reverse).map Json.normalize) ∧
    (∀ id, (f.applyStore s).schema.entityType? id =
      (f.lastEntityType? id).or (s.schema.entityType? id)) ∧
    (∀ entityType, ((lastsBy Bundle.id (f.bundlesFor entityType)).map Bundle.id).Nodup ∧
      ((f.applyStore s).schema.bundles.get? entityType).getD [] =
        (((s.schema.bundles.get? entityType).getD []).filter fun b =>
          !hasKey Bundle.id (f.bundlesFor entityType) b.id) ++
          lastsBy Bundle.id (f.bundlesFor entityType)) ∧
    (∀ entityType, (f.applyStore s).schema.baseFieldsOf entityType =
      ((s.schema.baseFieldsOf entityType).filter fun x =>
        !hasKey Field.name (f.baseFieldsFor entityType) x.name) ++
        lastsBy Field.name (f.baseFieldsFor entityType)) ∧
    (∀ entityType bundle, (f.applyStore s).schema.ownFieldsOf entityType bundle =
      ((s.schema.ownFieldsOf entityType bundle).filter fun x =>
        !hasKey Field.name (f.ownFieldsFor entityType bundle) x.name) ++
        lastsBy Field.name (f.ownFieldsFor entityType bundle)) ∧
    (∀ entityType, f.mentions entityType = false → SameType entityType s (f.applyStore s)) ∧
    (f.applyStore s).reindex = s.reindex ∧ (f.applyStore s).executed = s.executed := by
  have hschema : (f.applyStore s).schema = f.applySchema s.schema := by rw [applyStore_eq]
  refine ⟨⟨f.applyStore_again s, f.applyBlobs_again b⟩, f.load_applyStore s,
    get?_insertAll_entries b f.config, fun _ => get?_of_written, ?_, fun entityType =>
      ⟨nodup_lastsBy _ _, ?_⟩,
    ?_, ?_, fun _ h => sameType_applyStore h s, ?_, ?_⟩
  · rw [hschema]
    exact f.entityType?_applySchema s.schema
  · rw [hschema, f.bundles_applySchema]
  · rw [hschema]
    exact f.baseFieldsOf_applySchema s.schema
  · rw [hschema]
    exact f.ownFieldsOf_applySchema s.schema
  · rw [applyStore_eq]
  · rw [applyStore_eq]

def pageStore : Store :=
  (((({} : Store).mapSchema (·.insertBundle "node" ⟨"page", "Page"⟩)).mapSchema
    (·.insertBundle "node" ⟨"article", "Article"⟩)).insertEntity
      { entityType := "user", bundle := "user", id := ⟨"1"⟩, label := some "Ann" })

def repeatedSettings : List (String × Json) :=
  [("list", .string "first"), ("synonyms.settings", .null), ("list", .string "last")]

/-- A dataset that repeats the page, a node and a key of settings. -/
def repeating : Fixture where
  bundles := KeyMap.empty.insert "node" [⟨"page", "Old page"⟩, ⟨"tag", "Tag"⟩, ⟨"page", "New page"⟩]
  entities := [
    { entityType := "node", bundle := "page", id := ⟨"1"⟩, label := some "Fox" },
    { entityType := "node", bundle := "tag", id := ⟨"1"⟩, label := some "Owl" }]
  config := KeyMap.ofList repeatedSettings

theorem applied_twice_last_wins_repeating :
    Json.map? Json.any? (.object repeatedSettings) = some repeating.config ∧
    repeating.mentions "user" = false ∧
    repeating.applyStore (repeating.applyStore pageStore) = repeating.applyStore pageStore ∧
    ((repeating.applyStore pageStore).schema.bundles.get? "node").getD [] =
      [⟨"article", "Article"⟩, ⟨"tag", "Tag"⟩, ⟨"page", "New page"⟩] ∧
    (((repeating.applyStore pageStore).load "node" ⟨"1"⟩).map Entity.bundle) = some "tag" ∧
    ((repeating.applyBlobs .empty).get? "list").bind Json.text? = some "last" ∧
    (repeating.applyStore pageStore).entities.get? "user" = pageStore.entities.get? "user" := by
  have hwritten : Json.map? Json.any? (.object repeatedSettings) = some repeating.config := rfl
  have hother : repeating.mentions "user" = false := by decide +kernel
  obtain ⟨⟨hagain, -⟩, hload, hsettings, hlast, -, hbundles, -, -, hsame, -⟩ :=
    applied_twice_last_wins repeating pageStore .empty
  refine ⟨hwritten, hother, hagain, ?_, ?_, ?_, (hsame "user" hother).entities⟩
  · rw [(hbundles "node").2]
    decide +kernel
  · rw [hload]
    decide +kernel
  · rw [hsettings, hlast _ hwritten]
    decide +kernel

end Fixture
end SynonymLookup
