import SynonymLookup.Configuration.Basic

/-! Plugin ids and bundle tags taken apart: neither a type nor a bundle that an id names has a
point, so the tag of the bundle tells both. -/

namespace SynonymLookup

namespace Text

theorem cutChars_append {separator : Char} {a : List Char} (h : separator ∉ a) (b : List Char) :
    cutChars separator (a ++ separator :: b) = some (a, b) := by
  induction a with
  | nil => simp [cutChars]
  | cons c rest ih =>
    have hc : c ≠ separator := fun e => h (e ▸ List.mem_cons_self)
    have hrest : separator ∉ rest := fun hr => h (List.mem_cons_of_mem _ hr)
    simp [cutChars, hc, ih hrest]

/-- What stands around the first separator is told by the whole. -/
theorem append_separator_inj {separator : Char} {a a' b b' : List Char} (ha : separator ∉ a)
    (ha' : separator ∉ a') (h : a ++ separator :: b = a' ++ separator :: b') : a = a' ∧ b = b' := by
  have hcut := cutChars_append ha b
  rw [h, cutChars_append ha' b', Option.some.injEq, Prod.mk.injEq] at hcut
  exact ⟨hcut.1.symm, hcut.2.symm⟩

end Text

namespace PluginId

theorem parse?_eq_some {id : String} {p : PluginId} (h : parse? id = some p) :
    '.' ∉ p.entityType.toList ∧ '.' ∉ p.bundle.toList := by
  unfold parse? at h
  obtain ⟨⟨base, derivative⟩, -, h⟩ := Option.bind_eq_some_iff.1 h
  obtain ⟨⟨entityType, rest⟩, ht, h⟩ := Option.bind_eq_some_iff.1 h
  obtain ⟨⟨bundle, field⟩, hb, h⟩ := Option.bind_eq_some_iff.1 h
  have hp : p = ⟨String.ofList base, String.ofList entityType, String.ofList bundle,
      String.ofList field⟩ := by
    dsimp only at h
    split at h
    · cases h
    · cases h; rfl
  subst hp
  simpa using ⟨(Text.cutChars_eq_some ht).2, (Text.cutChars_eq_some hb).2⟩

theorem toList_make_id (base entityType bundle field label : String) :
    (ProviderDefinition.make base entityType bundle field label).id.toList =
      base.toList ++ ':' ::
        (entityType.toList ++ '.' :: (bundle.toList ++ '.' :: field.toList)) := by
  simp [ProviderDefinition.make]

theorem cut_make_id {base : String} (hbase : ':' ∉ base.toList)
    (entityType bundle field label : String) :
    ∃ derivative, Text.cut ':' (ProviderDefinition.make base entityType bundle field label).id =
      some (base, derivative) := by
  refine ⟨String.ofList (entityType.toList ++ '.' :: (bundle.toList ++ '.' :: field.toList)), ?_⟩
  simp only [Text.cut, toList_make_id, Text.cutChars_append hbase, Option.map_some,
    String.ofList_toList]

theorem make_id_inj
    {base base' entityType entityType' bundle bundle' field field' label label' : String}
    (hbase : ':' ∉ base.toList) (hbase' : ':' ∉ base'.toList) (htype : '.' ∉ entityType.toList)
    (htype' : '.' ∉ entityType'.toList) (hbundle : '.' ∉ bundle.toList)
    (hbundle' : '.' ∉ bundle'.toList)
    (h : (ProviderDefinition.make base entityType bundle field label).id =
      (ProviderDefinition.make base' entityType' bundle' field' label').id) :
    base = base' ∧ entityType = entityType' ∧ bundle = bundle' ∧ field = field' := by
  have hchars := congrArg String.toList h
  rw [toList_make_id, toList_make_id] at hchars
  obtain ⟨hb, hrest⟩ := Text.append_separator_inj hbase hbase' hchars
  obtain ⟨ht, hrest⟩ := Text.append_separator_inj htype htype' hrest
  obtain ⟨hn, hf⟩ := Text.append_separator_inj hbundle hbundle' hrest
  exact ⟨String.toList_inj.1 hb, String.toList_inj.1 ht, String.toList_inj.1 hn,
    String.toList_inj.1 hf⟩

/-- Where neither type nor bundle has a point, the id of a definition is cut where it
was put together. -/
theorem parse?_make_eq {base entityType bundle : String} (field label : String)
    (hbase : ':' ∉ base.toList) (htype : '.' ∉ entityType.toList) (hbundle : '.' ∉ bundle.toList) :
    parse? (ProviderDefinition.make base entityType bundle field label).id =
      if entityType = "" ∨ bundle = "" ∨ field = "" then none
      else some ⟨base, entityType, bundle, field⟩ := by
  unfold parse?
  rw [toList_make_id]
  simp [Text.cutChars_append, hbase, htype, hbundle, or_assoc]

theorem parse?_make {base entityType bundle field : String} (label : String)
    (hbase : ':' ∉ base.toList) (htype : '.' ∉ entityType.toList) (hbundle : '.' ∉ bundle.toList)
    (ht : entityType ≠ "") (hb : bundle ≠ "") (hf : field ≠ "") :
    parse? (ProviderDefinition.make base entityType bundle field label).id =
      some ⟨base, entityType, bundle, field⟩ := by
  rw [parse?_make_eq field label hbase htype hbundle, if_neg (by simp [ht, hb, hf])]

/-- Even with empty parts, what is read of the id of a definition is its type and bundle. -/
theorem of_parse?_make {base entityType bundle field label : String} {p : PluginId}
    (hbase : ':' ∉ base.toList) (htype : '.' ∉ entityType.toList) (hbundle : '.' ∉ bundle.toList)
    (h : parse? (ProviderDefinition.make base entityType bundle field label).id = some p) :
    p.entityType = entityType ∧ p.bundle = bundle := by
  rw [parse?_make_eq field label hbase htype hbundle] at h
  split at h
  · cases h
  · cases h
    exact ⟨rfl, rfl⟩

end PluginId

theorem eq_of_bundleTag_eq {entityType bundle entityType' bundle' : String}
    (ht : '.' ∉ entityType.toList) (hb : '.' ∉ bundle.toList)
    (h : bundleTag entityType bundle = bundleTag entityType' bundle') :
    entityType = entityType' ∧ bundle = bundle' := by
  have hchars : entityType.toList ++ '.' :: bundle.toList =
      entityType'.toList ++ '.' :: bundle'.toList := by
    have := congrArg String.toList h
    simpa [bundleTag] using this
  -- one point on the left leaves none for the parts on the right
  have hcount := congrArg (List.count '.') hchars
  simp only [List.count_append, List.count_cons_self, List.count_eq_zero_of_not_mem ht,
    List.count_eq_zero_of_not_mem hb] at hcount
  have ht' : '.' ∉ entityType'.toList := List.count_eq_zero.1 (by omega)
  obtain ⟨htype, hbundle⟩ := Text.append_separator_inj ht ht' hchars
  exact ⟨String.toList_inj.1 htype, String.toList_inj.1 hbundle⟩

namespace Configuration

theorem controls_iff {c : Configuration} {entityType bundle : String} :
    c.controls entityType bundle = true ↔
      ∃ p, c.pluginId? = some p ∧ p.entityType = entityType ∧ p.bundle = bundle := by
  simp [controls, Option.any_eq_true]

theorem cacheTag?_eq_some_iff {c : Configuration} {entityType bundle : String} :
    c.cacheTag? = some (bundleTag entityType bundle) ↔ c.controls entityType bundle = true := by
  rw [controls_iff, cacheTag?, Option.map_eq_some_iff]
  constructor
  · rintro ⟨p, hp, htag⟩
    obtain ⟨ht, hb⟩ := PluginId.parse?_eq_some hp
    exact ⟨p, hp, eq_of_bundleTag_eq ht hb htag⟩
  · rintro ⟨p, hp, rfl, rfl⟩
    exact ⟨p, hp, rfl⟩

theorem controls_congr {c : Configuration} {entityType bundle entityType' bundle' : String}
    (h : bundleTag entityType bundle = bundleTag entityType' bundle') :
    c.controls entityType bundle = c.controls entityType' bundle' := by
  rw [Bool.eq_iff_iff, ← cacheTag?_eq_some_iff, ← cacheTag?_eq_some_iff, h]

theorem controls_of_plugin_eq {c c' : Configuration} (h : c.plugin = c'.plugin)
    (entityType bundle : String) :
    c.controls entityType bundle = c'.controls entityType bundle := by
  unfold controls pluginId?
  rw [h]

end Configuration

end SynonymLookup
