import SynonymLookup.Proofs.Provider.FieldSearch
import SynonymLookup.Provider.Reference

/-! The search in reference fields. The searched column names a field but no bundle, so it leads to
the target type of the first field of that name in any bundle; search and extraction agree exactly
where that is the target type of the definition's own field. -/

namespace SynonymLookup
namespace ReferenceProvider

variable {b : Backend} {d : ProviderDefinition} {t x : EntityType} {target label : String}

theorem synonyms_eq (built : b.store.Built) (h : b.InService)
    (htarget : targetType? b d = some target) (e : Entity) :
    synonyms d b e = ((((e.referencedIds d.field).filterMap (b.store.load target)).map
      Entity.labelText).filter fun l => !l.isEmpty) := by
  have hfound : ∀ id ∈ e.referencedIds d.field,
      (targets b target (e.referencedIds d.field)).get? id.text = b.store.load target id := by
    intro id hid
    have hnonempty : (e.referencedIds d.field).isEmpty = false := by
      cases hids : e.referencedIds d.field with
      | nil => simp [hids] at hid
      | cons => rfl
    unfold targets
    rw [hnonempty]
    show ((b.loadAll target (e.referencedIds d.field)).toOption.getD .empty).get? id.text = _
    rw [Backend.get?_loadAll h, built.consistent.get?_loadAll target hid]
  unfold synonyms
  rw [htarget]
  unfold labels
  dsimp only
  rw [List.filterMap_congr hfound]

theorem texts_at_referenced {s : Store} (hx : s.schema.entityType? target = some x)
    (hid : label ≠ x.keys.id) (hbundle : x.keys.bundle ≠ some label) (e : Entity) (field : String) :
    (s.valuesAt e (.referenced field target label)).filterMap Json.text? =
      ((((e.referencedIds field).filterMap (s.load target)).map Entity.labelText).filter fun l =>
        !l.isEmpty) := by
  have hvalue (found : Entity) : x.keyValue found label = found.label.map .string := by
    simp [EntityType.keyValue, hid, hbundle]
  unfold Store.valuesAt
  simp only [hx, hvalue]
  induction (e.referencedIds field).filterMap (s.load target) with
  | nil => rfl
  | cons found rest ih =>
    rw [List.map_cons, List.filterMap_cons]
    cases hl : found.label with
    | none =>
      have hempty : found.labelText = "" := by simp [Entity.labelText, hl]
      simpa [hempty] using ih
    | some text =>
      have htext : found.labelText = text := by simp [Entity.labelText, hl]
      by_cases hempty : text = ""
      · subst hempty
        simpa [htext, Json.text?] using ih
      · simpa [htext, Json.text?, hempty] using ih

theorem column?_eq (htarget : targetType? b d = some target)
    (hx : b.schema.entityType? target = some x) (hlabel : x.labelColumn = some label) :
    column? b d = some (d.field ++ ".entity." ++ label) := by
  simp [column?, htarget, hx, hlabel]

theorem fieldLocation?_referenced {s : Schema} {entityType field : String} {f : Field}
    (hfield : '.' ∉ field.toList) (hknown : s.anyField? entityType field = some f)
    (label : String) :
    s.fieldLocation? entityType (field ++ ".entity." ++ label) =
      f.targetType.bind fun targetType => (s.entityType? targetType).bind fun definition =>
        if definition.isKey label then some (.referenced field targetType label) else none := by
  have hchars : (field ++ ".entity." ++ label).toList =
      field.toList ++ '.' :: ("entity.".toList ++ label.toList) := by simp
  have hstrip : Text.stripHead? "entity.".toList ("entity.".toList ++ label.toList) =
      some label.toList := Text.stripHead?_eq_some.2 rfl
  unfold Schema.fieldLocation?
  rw [hchars, Text.cutChars_append hfield]
  simp only [Option.bind_eq_bind, Option.bind_some, String.ofList_toList, hknown, hstrip]
  rfl

theorem isKey_referenced {t : EntityType} (h : ∀ key, t.isKey key = true → '.' ∉ key.toList)
    (field label : String) : t.isKey (field ++ ".entity." ++ label) = false :=
  EntityType.isKey_of_point h (by simp)

theorem findIn_unknown {column : String} (hknown : b.schema.entityType? d.entityType = some t)
    (hid : t.id = d.entityType) (hresolve : b.Up .resolve)
    (hplace : ∃ entityType name, b.schema.locate d.entityType column =
      .error (.unknownColumn entityType name)) (c : Condition) :
    (d.findIn column c).on b = (.ok [], b) := by
  obtain ⟨entityType, name, hplace⟩ := hplace
  have hlocate : b.locate t.id column = .error (.unknownColumn entityType name) := by
    rw [Backend.locate_of_up hresolve, hid, hplace]
  unfold ProviderDefinition.findIn
  rw [Step.on_bind_ok (Step.on_get b)]
  simp only [hknown, hlocate]
  rfl

/-- The definition's own field refers to a labelled type, and no two of the columns in question fall
together. -/
structure Labelled (s : Schema) (d : ProviderDefinition) (t x : EntityType)
    (target label : String) : Prop where
  known : s.entityType? d.entityType = some t
  refers : (d.field? s).bind (·.targetType) = some target
  target_known : s.entityType? target = some x
  labelled : x.labelColumn = some label
  label_ne_id : label ≠ x.keys.id
  label_ne_bundle : x.keys.bundle ≠ some label
  bundle_ne_id : t.keys.bundle ≠ some t.keys.id
  named : d.bundle ≠ ""
  field : '.' ∉ d.field.toList
  keys : ∀ key, t.isKey key = true → '.' ∉ key.toList

/-- The searched column leads to the labels that are extracted. -/
theorem find_of_same_target (h : Labelled b.schema d t x target label) (built : b.store.Built)
    (up : b.InService)
    (hsame : (b.schema.anyField? d.entityType d.field).bind (·.targetType) = some target)
    {c : Condition} (hc : c.Askable) :
    (find d c).on b = (.ok (d.matching t b.store (synonyms d b) c), b.counted) := by
  obtain ⟨f, hf, hftarget⟩ := Option.bind_eq_some_iff.1 hsame
  have hkey : x.isKey label = true := by simp [EntityType.isKey, h.labelled]
  have hplace : b.schema.fieldLocation? d.entityType (d.field ++ ".entity." ++ label) =
      some (.referenced d.field target label) := by
    rw [fieldLocation?_referenced h.field hf, hftarget, Option.bind_some, h.target_known,
      Option.bind_some, if_pos hkey]
  have hsearched : Searched b d t
      ⟨d.field ++ ".entity." ++ label, .referenced d.field target label⟩ :=
    .of_fieldLocation? built h.known (isKey_referenced h.keys d.field label) hplace h.bundle_ne_id
      h.named
  have hfind := hsearched.findIn_on up.resolve up.execute hc
  have hsynonyms : synonyms d b = fun e =>
      (b.store.valuesAt e (.referenced d.field target label)).filterMap Json.text? := by
    funext e
    rw [synonyms_eq built up h.refers,
      texts_at_referenced h.target_known h.label_ne_id h.label_ne_bundle]
  unfold find
  rw [Step.on_bind_ok (Step.on_get b), column?_eq h.refers h.target_known h.labelled, hsynonyms]
  exact hfind

/-- Nothing is found for an entity none of whose references is one to the type that the column leads
to. -/
theorem find_elsewhere (h : Labelled b.schema d t x target label) (built : b.store.Built)
    (up : b.InService) (hderived : (b.schema.anyField? d.entityType d.field).isSome) {c : Condition}
    (hc : c.Askable) {e : Entity} (he : b.store.load d.entityType e.id = some e)
    (hmissing : ∀ other,
      (b.schema.anyField? d.entityType d.field).bind (·.targetType) = some other →
        ∀ id ∈ e.referencedIds d.field, b.store.load other id = none) :
    ∃ found, ((find d c).on b).1 = .ok found ∧ ∀ text, ⟨e.id, text⟩ ∉ found := by
  obtain ⟨f, hf⟩ := Option.isSome_iff_exists.1 hderived
  have hlocation := fieldLocation?_referenced h.field hf label
  have hkey := isKey_referenced h.keys d.field label
  have hcolumn := column?_eq h.refers h.target_known h.labelled
  have hid := built.consistent.entityType_id h.known
  unfold find
  rw [Step.on_bind_ok (Step.on_get b), hcolumn]
  cases hplace : b.schema.fieldLocation? d.entityType (d.field ++ ".entity." ++ label) with
  | none =>
    have hlocate : b.schema.locate d.entityType (d.field ++ ".entity." ++ label) =
        .error (.unknownColumn d.entityType (d.field ++ ".entity." ++ label)) := by
      unfold Schema.locate
      simp only [h.known, hkey, hplace]
      rfl
    refine ⟨[], ?_, fun text => List.not_mem_nil⟩
    show ((d.findIn (d.field ++ ".entity." ++ label) c).on b).1 = _
    rw [findIn_unknown h.known hid up.resolve ⟨_, _, hlocate⟩]
  | some location =>
    have hsearched : Searched b d t ⟨d.field ++ ".entity." ++ label, location⟩ :=
      .of_fieldLocation? built h.known hkey hplace h.bundle_ne_id h.named
    refine ⟨_, congrArg Prod.fst
      (hsearched.findIn_on up.resolve up.execute hc), fun text hfound => ?_⟩
    obtain ⟨e', he', -, htext, -⟩ := (ProviderDefinition.mem_matching_iff built.consistent).1 hfound
    rw [he, Option.some.injEq] at he'
    subst he'
    rw [hlocation] at hplace
    obtain ⟨other, hother, hplace⟩ := Option.bind_eq_some_iff.1 hplace
    obtain ⟨definition, hdefinition, hplace⟩ := Option.bind_eq_some_iff.1 hplace
    split at hplace
    · cases hplace
      have hnone : (e.referencedIds d.field).filterMap (b.store.load other) = [] := by
        rw [List.filterMap_eq_nil_iff]
        exact hmissing other (by rw [hf, Option.bind_some, hother])
      simp [Store.valuesAt, hnone] at htext
      split at htext <;> simp at htext
    · cases hplace

def referring (d : ProviderDefinition) : Entity :=
  { entityType := d.entityType, bundle := d.bundle, id := ⟨"1"⟩ : Entity }.withReferences d.field
    [⟨"2"⟩]

def referred (target : String) : Entity :=
  { entityType := target, bundle := target, id := ⟨"2"⟩, label := some "label" }

def withReference (s : Store) (d : ProviderDefinition) (target other : String) : Store :=
  ((s.removeEntity other ⟨"2"⟩).insertEntity (referred target)).insertEntity (referring d)

theorem referencedIds_referring (d : ProviderDefinition) :
    (referring d).referencedIds d.field = [⟨"2"⟩] := by
  have hitems : (referring d).items d.field = [Item.single targetIdProperty (.string "2")] := by
    simp [referring, Entity.withReferences, Entity.withItems, Entity.items, EntityId.toJson]
  unfold Entity.referencedIds Entity.propertyTexts
  rw [hitems]
  decide

theorem schema_withReference (s : Store) (d : ProviderDefinition) (target other : String) :
    (withReference s d target other).schema = s.schema := Store.schema_removeEntity s other ⟨"2"⟩

theorem built_withReference {s : Store} (built : s.Built) (d : ProviderDefinition)
    (target other : String) : (withReference s d target other).Built :=
  .insertEntity _ (.insertEntity _ (.removeEntity _ _ built))

theorem load_referring (s : Store) (d : ProviderDefinition) (target other : String) :
    (withReference s d target other).load d.entityType ⟨"1"⟩ = some (referring d) := by
  rw [withReference, Store.load_insertEntity]
  exact if_pos ⟨rfl, rfl⟩

theorem load_referred (s : Store) (d : ProviderDefinition) (target other : String) :
    (withReference s d target other).load target ⟨"2"⟩ = some (referred target) := by
  rw [withReference, Store.load_insertEntity,
    if_neg (fun h => absurd h.2 (show "1" ≠ "2" by decide)), Store.load_insertEntity]
  exact if_pos ⟨rfl, rfl⟩

theorem load_other (s : Store) (d : ProviderDefinition) {target other : String}
    (h : other ≠ target) : (withReference s d target other).load other ⟨"2"⟩ = none := by
  rw [withReference, Store.load_insertEntity,
    if_neg (fun h => absurd h.2 (show "1" ≠ "2" by decide)), Store.load_insertEntity,
    if_neg (fun hkeys => h hkeys.1.symm), Store.load_removeEntity]

theorem synonyms_referring {s : Store} (built : s.Built) (h : Labelled s.schema d t x target label)
    (other : String) :
    synonyms d { store := withReference s d target other } (referring d) = ["label"] := by
  have hrefers : targetType? { store := withReference s d target other } d = some target := by
    show (d.field? (withReference s d target other).schema).bind _ = _
    rw [schema_withReference, h.refers]
  rw [synonyms_eq (built_withReference built d target other) (Backend.inService_of_store _) hrefers,
    referencedIds_referring]
  simp [load_referred, referred, Entity.labelText]

/-- A provider finds an extracted text for its entity, and finds nothing else for it. -/
def Agrees (p : Provider) (b : Backend) (e : Entity) : Prop :=
  ∀ text, ∃ found, ((p.find (Condition.onSynonym .equal (.string text))).on b).1 = .ok found ∧
    (text ∈ p.synonyms b e ↔ ⟨e.id, text⟩ ∈ found)

theorem agrees_of_same_target (h : Labelled b.schema d t x target label) (built : b.store.Built)
    (up : b.InService)
    (hsame : (b.schema.anyField? d.entityType d.field).bind (·.targetType) = some target)
    (s : Schema) (settings : ProviderConfiguration) {id : EntityId} {e : Entity}
    (he : b.store.load d.entityType id = some e) (hbundle : e.bundle = d.bundle) :
    Agrees (base.create s d settings) b e := by
  intro text
  have hfind := find_of_same_target h built up hsame (Condition.askable_onSynonym text)
  refine ⟨_, congrArg Prod.fst hfind, ?_⟩
  rw [ProviderDefinition.mem_matching_iff built.consistent]
  have hid := (built.consistent.id_of_load he).2
  constructor
  · intro htext
    have hne : text ≠ "" := by
      replace htext : text ∈ synonyms d b e := htext
      rw [synonyms_eq built up h.refers] at htext
      simpa using (List.mem_filter.1 htext).2
    refine ⟨e, by rw [hid, he], ?_, htext, ?_⟩
    · simp [ProviderDefinition.covers, hbundle, Text.sameIgnoringCase]
    · rw [Condition.meetsFor_onSynonym hne]
      simp [Text.sameIgnoringCase]
  · rintro ⟨e', he', -, htext, -⟩
    rw [hid, he, Option.some.injEq] at he'
    subst he'
    exact htext

theorem same_target_of_agrees {s : Store} (built : s.Built)
    (h : Labelled s.schema d t x target label)
    (hderived : (s.schema.anyField? d.entityType d.field).isSome) (settings : ProviderConfiguration)
    (agree : ∀ other, Agrees (base.create s.schema d settings)
      { store := withReference s d target other } (referring d)) :
    (s.schema.anyField? d.entityType d.field).bind (·.targetType) = some target := by
  by_contra hdiffers
  let other := ((s.schema.anyField? d.entityType d.field).bind (·.targetType)).getD ""
  let b : Backend := { store := withReference s d target other }
  have hschema : b.schema = s.schema := schema_withReference s d target other
  have hmissing : ∀ o, (b.schema.anyField? d.entityType d.field).bind (·.targetType) = some o →
      ∀ id ∈ (referring d).referencedIds d.field, b.store.load o id = none := by
    intro o ho id hid
    rw [hschema] at ho
    rw [referencedIds_referring, List.mem_singleton] at hid
    have hother : other = o := by
      show Option.getD _ _ = o
      rw [ho, Option.getD_some]
    subst hid
    rw [← hother]
    refine load_other s d fun hsame => hdiffers ?_
    rw [ho, ← hother, hsame]
  obtain ⟨found, hfound, hnone⟩ := find_elsewhere (b := b) (hschema ▸ h)
    (built_withReference built d target other) (Backend.inService_of_store _) (hschema ▸ hderived)
    (Condition.askable_onSynonym "label") (load_referring s d target other) hmissing
  obtain ⟨found', hfound', hiff⟩ := agree other "label"
  have hextracted : "label" ∈ synonyms d b (referring d) := by
    rw [synonyms_referring built h other]
    exact List.mem_singleton_self _
  have hsame : found' = found := Except.ok.inj (hfound'.symm.trans hfound)
  rw [hsame] at hiff
  exact hnone "label" (hiff.1 hextracted)

/-- In every store of a schema, what is extracted from an entity of the bundle is what a
search for it finds there, exactly if the first field of that name in any bundle refers to the
same type as the bundle's own. -/
theorem agrees_iff_same_target {s : Store} (built : s.Built) (hd : d ∈ base.derive s.schema)
    (h : Labelled s.schema d t x target label) (settings : ProviderConfiguration) :
    (∀ b : Backend, b.store.Built → b.schema = s.schema → b.InService → ∀ id e,
      b.store.load d.entityType id = some e → e.bundle = d.bundle →
        Agrees (base.create s.schema d settings) b e) ↔
    (s.schema.anyField? d.entityType d.field).bind (·.targetType) = some target := by
  constructor
  · intro agree
    have hderived := Schema.isSome_anyField?_of_derived hd
    refine same_target_of_agrees built h hderived settings fun other => ?_
    exact agree { store := withReference s d target other }
      (built_withReference built d target other)
      (schema_withReference s d target other) (Backend.inService_of_store _) _ _
      (load_referring s d target other) rfl
  · intro hsame b hbuilt hschema up id e he hbundle
    rw [← hschema] at h hsame
    exact agrees_of_same_target h hbuilt up hsame _ settings he hbundle

def authoredPage : Entity :=
  { entityType := "node", bundle := "page", id := ⟨"1"⟩ : Entity }.withReferences "author" [⟨"2"⟩]

def authorStore (articleTarget : String) : Store :=
  let node : EntityType :=
    { id := "node", keys := { bundle := some "type", label := some "title" } }
  let user : EntityType := { id := "user", keys := { label := some "name" } }
  let term : EntityType := { id := "term", keys := { label := some "name" } }
  (((((((({} : Store).mapSchema (·.insertEntityType node)).mapSchema
    (·.insertEntityType user)).mapSchema
    (·.insertEntityType term)).mapSchema
    (·.insertBundle "node" ⟨"article", "Article"⟩)).mapSchema
    (·.insertBundle "node" ⟨"page", "Page"⟩)).mapSchema
    (·.insertField "node" "article" (.reference "author" "Author" articleTarget))).mapSchema
    (·.insertField "node" "page" (.reference "author" "Author" "user"))).insertEntity
      { entityType := "user", bundle := "user", id := ⟨"2"⟩, label := some "Ann" } |>.insertEntity
        authoredPage

def authorDefinition : ProviderDefinition :=
  ProviderDefinition.make "entity_reference" "node" "page" "author" "Author"

theorem built_authorStore (articleTarget : String) : (authorStore articleTarget).Built :=
  .insertEntity _ (.insertEntity _ (.insertField _ _ _ (.insertField _ _ _ (.insertBundle _ _
    (.insertBundle _ _ (.insertEntityType _ (.insertEntityType _ (.insertEntityType _ .empty))))))))

theorem labelled_author (articleTarget : String) :
    Labelled (authorStore articleTarget).schema authorDefinition
      { id := "node", keys := { bundle := some "type", label := some "title" } }
      { id := "user", keys := { label := some "name" } } "user" "name" where
  known := rfl
  refers := rfl
  target_known := rfl
  labelled := rfl
  label_ne_id := by decide
  label_ne_bundle := by decide
  bundle_ne_id := by decide
  named := by decide
  field := by decide
  keys := by
    intro key h
    simp [EntityType.isKey, EntityType.labelColumn] at h
    rcases h with (rfl | rfl) | rfl <;> decide

theorem agrees_iff_same_target_users :
    (authorStore "user").Built ∧ authorDefinition ∈ base.derive (authorStore "user").schema ∧
    Agrees (base.create (authorStore "user").schema authorDefinition {})
      { store := authorStore "user" } authoredPage ∧
    synonyms authorDefinition { store := authorStore "user" } authoredPage = ["Ann"] := by
  have hd : authorDefinition ∈ base.derive (authorStore "user").schema := by decide
  refine ⟨built_authorStore "user", hd, ?_, by decide⟩
  have hsame := (agrees_iff_same_target (built_authorStore "user") hd
    (labelled_author "user") {}).2 rfl
  exact hsame { store := authorStore "user" } (built_authorStore "user") rfl
    (Backend.inService_of_store _) ⟨"1"⟩ authoredPage rfl rfl

/-- Where articles refer to terms, the author of a page is extracted but not found. -/
theorem author_not_found_of_other_bundle :
    (authorStore "term").Built ∧ authorDefinition ∈ base.derive (authorStore "term").schema ∧
    Labelled (authorStore "term").schema authorDefinition
      { id := "node", keys := { bundle := some "type", label := some "title" } }
      { id := "user", keys := { label := some "name" } } "user" "name" ∧
    (authorStore "term").load "node" ⟨"1"⟩ = some authoredPage ∧
    ¬ Agrees (base.create (authorStore "term").schema authorDefinition {})
      { store := authorStore "term" } authoredPage := by
  refine ⟨built_authorStore "term", by decide, labelled_author "term", rfl, fun agree => ?_⟩
  obtain ⟨found, hfound, hiff⟩ := agree "Ann"
  have hextracted : synonyms authorDefinition { store := authorStore "term" } authoredPage =
      ["Ann"] := by decide
  have hnone : ((find authorDefinition (Condition.onSynonym .equal (.string "Ann"))).on
      { store := authorStore "term" }).1 = .ok [] := by decide
  have hempty : found = [] := Except.ok.inj (hfound.symm.trans hnone)
  have hmem : ⟨authoredPage.id, "Ann"⟩ ∈ found := by
    apply hiff.1
    show "Ann" ∈ synonyms authorDefinition { store := authorStore "term" } authoredPage
    rw [hextracted]
    exact List.mem_singleton_self _
  rw [hempty] at hmem
  cases hmem

end ReferenceProvider
end SynonymLookup
