import SynonymLookup.Proofs.Provider.PluginId
import SynonymLookup.Proofs.Provider.Search

/-! The search in simple fields: a derived provider finds the synonyms that it extracts, of the
entities of its bundle, as far as they meet the condition. -/

namespace SynonymLookup

theorem Item.text?_of_isBlank {item : Item} (h : item.isBlank = true) (property : String) :
    (item.get? property).bind Json.text? = none := by
  cases hv : item.get? property with
  | none => rfl
  | some v =>
    have hmem : v ∈ item.values := KeyMap.mem_values_iff.2 ⟨property, hv⟩
    have hblank := List.all_eq_true.1 h v hmem
    cases v with
    | string s => simpa [Json.text?] using hblank
    | null => rfl
    | _ => cases hblank

theorem ne_empty_of_mem_propertyTexts {e : Entity} {field property text : String}
    (h : text ∈ e.propertyTexts field property) : text ≠ "" := by
  obtain ⟨item, -, hitem⟩ := List.mem_filterMap.1 h
  obtain ⟨v, -, hv⟩ := Option.bind_eq_some_iff.1 hitem
  exact Json.text?_ne_empty hv

/-- The texts of the values in a property's column are those extracted from the property. -/
theorem Store.texts_at_property (s : Store) (e : Entity) (field property : String) :
    (s.valuesAt e (.property field property)).filterMap Json.text? =
      e.propertyTexts field property := by
  unfold Store.valuesAt Entity.propertyTexts
  dsimp only
  induction e.items field with
  | nil => rfl
  | cons item rest ih =>
    rw [List.filterMap_cons]
    cases hblank : item.isBlank with
    | true =>
      have htext := Item.text?_of_isBlank hblank property
      rw [List.filter_cons_of_neg (by simp [hblank]), ← ih]
      cases hv : item.get? property with
      | none => rfl
      | some v =>
        rw [hv, Option.bind_some] at htext
        dsimp only
        rw [List.filter_cons]
        split
        · rw [List.filterMap_cons, htext]
        · rfl
    | false =>
      rw [List.filter_cons_of_pos (by simp [hblank]), List.filterMap_cons, ← ih]
      cases hv : item.get? property with
      | none => rfl
      | some v =>
        dsimp only
        rw [Option.bind_some, List.filter_cons]
        split
        · rw [List.filterMap_cons]
        · rename_i hnull
          cases v with
          | null => rfl
          | _ => simp [Json.isNull] at hnull

namespace Schema

theorem isSome_anyField? {s : Schema} {entityType bundle : String} {f : Field}
    (h : f ∈ s.fieldsOf entityType bundle) : (s.anyField? entityType f.name).isSome := by
  unfold fieldsOf at h
  unfold anyField?
  rw [List.find?_isSome]
  refine ⟨f, ?_, by simp⟩
  rcases List.mem_append.1 h with h | h
  · exact List.mem_append_left _ h
  · apply List.mem_append_right
    unfold ownFieldsOf at h
    cases ht : s.bundleFields.get? entityType with
    | none => simp [ht] at h
    | some m =>
      cases hb : m.get? bundle with
      | none => simp [ht, hb] at h
      | some fields =>
        have hf : f ∈ fields := by simpa [ht, hb] using h
        simp only [Option.map_some, Option.getD_some]
        exact List.mem_flatten.2 ⟨fields, KeyMap.mem_values_iff.2 ⟨bundle, hb⟩, hf⟩

theorem fieldLocation?_property {s : Schema} {entityType field property : String}
    (hfield : '.' ∉ field.toList) (hknown : (s.anyField? entityType field).isSome)
    (hproperty : Text.stripHead? "entity.".toList property.toList = none) :
    s.fieldLocation? entityType (field ++ "." ++ property) = some (.property field property) := by
  obtain ⟨f, hf⟩ := Option.isSome_iff_exists.1 hknown
  have hchars : (field ++ "." ++ property).toList = field.toList ++ '.' :: property.toList := by
    simp
  unfold fieldLocation?
  rw [hchars, Text.cutChars_append hfield]
  simp only [Option.bind_eq_bind, Option.bind_some, String.ofList_toList, hf, hproperty]
  rfl

theorem mem_deriveFields {s : Schema} {baseId : String} {eligible : Field → Bool}
    {d : ProviderDefinition} (h : d ∈ s.deriveFields baseId eligible) :
    ∃ t ∈ s.entityTypes.values, ∃ b ∈ s.bundlesOf t.id, ∃ f ∈ s.fieldsOf t.id b.id,
      eligible f = true ∧ d = ProviderDefinition.make baseId t.id b.id f.name f.label := by
  unfold deriveFields derive at h
  simp only [List.mem_flatMap, List.mem_filter, List.mem_map] at h
  obtain ⟨t, ⟨ht, -⟩, b, hb, f, ⟨hf, heligible⟩, rfl⟩ := h
  exact ⟨t, ht, b, hb, f, hf, by simpa using (Bool.and_eq_true_iff.1 heligible).2, rfl⟩

theorem exists_of_mem_bundlesOf {s : Schema} {entityType : String} {b : Bundle}
    (h : b ∈ s.bundlesOf entityType) : ∃ e ∈ s.entityTypes.entries, e.1 = entityType := by
  cases ht : s.entityType? entityType with
  | none => simp [bundlesOf, ht] at h
  | some t => exact ⟨(entityType, t), KeyMap.get?_eq_some_iff.1 ht, rfl⟩

theorem isSome_anyField?_of_derived {s : Schema} {baseId : String} {eligible : Field → Bool}
    {d : ProviderDefinition} (h : d ∈ s.deriveFields baseId eligible) :
    (s.anyField? d.entityType d.field).isSome := by
  obtain ⟨t, -, b, -, f, hf, -, rfl⟩ := mem_deriveFields h
  exact isSome_anyField? hf

end Schema

namespace FieldProvider

theorem simpleFieldProperty?_cases {fieldType property : String}
    (h : simpleFieldProperty? fieldType = some property) :
    property = valueProperty ∨ property = "title" := by
  unfold simpleFieldProperty? at h
  split at h
  · exact .inl (Option.some.inj h).symm
  · split at h
    · exact .inr (Option.some.inj h).symm
    · cases h

theorem property_cases (s : Schema) (d : ProviderDefinition) :
    property s d = valueProperty ∨ property s d = "title" := by
  unfold property
  cases h : (d.field? s).bind fun f => simpleFieldProperty? f.fieldType with
  | none => exact .inl rfl
  | some p =>
    obtain ⟨f, -, hp⟩ := Option.bind_eq_some_iff.1 h
    exact simpleFieldProperty?_cases hp

theorem stripHead?_property (s : Schema) (d : ProviderDefinition) :
    Text.stripHead? "entity.".toList (property s d).toList = none := by
  rcases property_cases s d with h | h <;> rw [h] <;> decide

theorem searched_column {b : Backend} {d : ProviderDefinition} {t : EntityType}
    (built : b.store.Built) (hknown : b.schema.entityType? d.entityType = some t)
    (hderived : (b.schema.anyField? d.entityType d.field).isSome) (hbundle : d.bundle ≠ "")
    (hfield : '.' ∉ d.field.toList) (hkeys : ∀ key, t.isKey key = true → '.' ∉ key.toList)
    (hdiffer : t.keys.bundle ≠ some t.keys.id) :
    Searched b d t ⟨column b.schema d, .property d.field (property b.schema d)⟩ :=
  .of_fieldLocation? built hknown (EntityType.isKey_of_point hkeys (by simp [column]))
    (Schema.fieldLocation?_property hfield hderived (stripHead?_property b.schema d))
      hdiffer hbundle

theorem create_find_on {b : Backend} {d : ProviderDefinition} {t : EntityType} {c : Condition}
    (hsearched : Searched b d t ⟨column b.schema d, .property d.field (property b.schema d)⟩)
    (hc : c.Askable) (hresolve : b.Up .resolve) (hexecute : b.Up .execute)
    (settings : ProviderConfiguration) :
    ((create b.schema d settings).find c).on b =
      (.ok (d.matching t b.store ((create b.schema d settings).synonyms b) c), b.counted) := by
  have hfind := hsearched.findIn_on hresolve hexecute hc
  simp only [Store.texts_at_property] at hfind
  exact hfind

/-- A provider derived for a simple field finds, of the stored entities of its bundle in id order,
the synonyms that it extracts and that meet the condition, whatever tree the condition is. -/
theorem find_on {b : Backend} {p : ProviderBase} {d : ProviderDefinition} {t : EntityType}
    {c : Condition} (built : b.store.Built) (hp : p = base ∨ p = configurable)
    (hd : d ∈ p.derive b.schema) (hknown : b.schema.entityType? d.entityType = some t)
    (hbundle : d.bundle ≠ "") (hfield : '.' ∉ d.field.toList)
    (hkeys : ∀ key, t.isKey key = true → '.' ∉ key.toList)
    (hdiffer : t.keys.bundle ≠ some t.keys.id) (hc : c.Askable) (hresolve : b.Up .resolve)
    (hexecute : b.Up .execute) (settings : ProviderConfiguration) :
    let provider := p.create b.schema d settings
    (provider.find c).on b =
      (.ok (d.matching t b.store (provider.synonyms b) c), b.counted) ∧
    (b.store.entitiesOf d.entityType).values.Pairwise fun e e' => e.id.text < e'.id.text := by
  have hderived : (b.schema.anyField? d.entityType d.field).isSome := by
    rcases hp with rfl | rfl
    · exact Schema.isSome_anyField?_of_derived hd
    · exact Schema.isSome_anyField?_of_derived hd
  have hcreate : p.create = create := by rcases hp with rfl | rfl <;> rfl
  have hsearched := searched_column built hknown hderived hbundle hfield hkeys hdiffer
  dsimp only
  rw [hcreate]
  exact ⟨create_find_on hsearched hc hresolve hexecute settings,
    built.consistent.values_sorted d.entityType⟩

def aliasStore : Store :=
  let node : EntityType :=
    { id := "node", keys := { bundle := some "type", label := some "title" } }
  let field : Field := { name := "field_alias", fieldType := "string" }
  let fox : Entity := { entityType := "node", bundle := "article", id := ⟨"1"⟩ }
  let reynard : Entity := { entityType := "node", bundle := "ARTICLE", id := ⟨"2"⟩ }
  let page : Entity := { entityType := "node", bundle := "page", id := ⟨"3"⟩ }
  let aliases := [.string "Fox", Json.ofNat 7, .string "", .null, .bool true]
  ((((((({} : Store).mapSchema (·.insertEntityType node)).mapSchema
    (·.insertBundle "node" ⟨"article", "Article"⟩)).mapSchema
    (·.insertBundle "node" ⟨"page", "Page"⟩)).mapSchema
    (·.insertField "node" "article" field)).insertEntity
    (fox.withValues "field_alias" aliases)).insertEntity
    (reynard.withValues "field_alias" [.string "Reynard"])).insertEntity
    (page.withValues "field_alias" [.string "Reynard"])

def aliasDefinition : ProviderDefinition :=
  ProviderDefinition.make "field" "node" "article" "field_alias" ""

def aliasCondition : Condition :=
  .and [Condition.onSynonym .notEqual (.string "FOX"),
    .or [Condition.onEntityId .isIn (.array [.string "1"]),
      Condition.onSynonym .like (.string "%NARD")]]

theorem find_on_aliases :
    aliasStore.Built ∧ aliasDefinition ∈ configurable.derive aliasStore.schema ∧
    aliasCondition.Askable ∧
    (((configurable.create aliasStore.schema aliasDefinition {}).find aliasCondition).on
      { store := aliasStore }).1 = .ok [⟨⟨"1"⟩, "7"⟩, ⟨⟨"2"⟩, "Reynard"⟩] := by
  have built : aliasStore.Built :=
    .insertEntity _ (.insertEntity _ (.insertEntity _ (.insertField _ _ _ (.insertBundle _ _
      (.insertBundle _ _ (.insertEntityType _ .empty))))))
  have hd : aliasDefinition ∈ configurable.derive aliasStore.schema := by decide
  have askable : aliasCondition.Askable := by
    constructor <;> simp [aliasCondition, Condition.onSynonym, Condition.onEntityId,
      Condition.compare, Column.isPlaceholder, Operator.Takes, Operator.takesList, Json.items?,
      Json.text?]
  refine ⟨built, hd, askable, ?_⟩
  have hkeys (key : String) (h : EntityType.isKey
      { id := "node", keys := { bundle := some "type", label := some "title" } } key = true) :
      '.' ∉ key.toList := by
    simp [EntityType.isKey, EntityType.labelColumn] at h
    rcases h with (rfl | rfl) | rfl <;> decide
  have hfound := (find_on (b := { store := aliasStore }) built (.inr rfl) hd rfl (by decide)
    (by decide) hkeys (by decide) askable rfl rfl {}).1
  exact (congrArg Prod.fst hfound).trans (congrArg Except.ok (by decide))

end FieldProvider
end SynonymLookup
