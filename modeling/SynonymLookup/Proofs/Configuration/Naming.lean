import SynonymLookup.Proofs.Configuration.Laws

/-! The ids of new configurations. An id is made of the plugin id with points for colons, so two
providers share one if they are of one base and their names differ in colons and points alone. Then
the configuration of one takes the place of the other's; else both stay. -/

namespace SynonymLookup

namespace Text

theorem toList_replaceChar (old new : Char) (s : String) :
    (replaceChar old new s).toList = s.toList.map fun c => if c = old then new else c := by
  simp [replaceChar]

theorem replaceChar_eq_self {old : Char} {s : String} (h : old ∉ s.toList) (new : Char) :
    replaceChar old new s = s := by
  rw [← String.toList_inj, toList_replaceChar]
  have hsame : ∀ c ∈ s.toList, (if c = old then new else c) = id c := by
    intro c hc
    have hne : c ≠ old := fun hold => h (hold ▸ hc)
    simp [hne]
  rw [List.map_congr_left hsame, List.map_id]

end Text

namespace ProviderDefinition

variable {d d' : ProviderDefinition}

/-- Type, bundle and field, as they stand behind the base in the id. -/
def path (d : ProviderDefinition) : String := d.entityType ++ "." ++ d.bundle ++ "." ++ d.field

theorem Made.id_eq (made : d.Made) : d.id = d.baseId ++ ":" ++ d.path := by
  have hid : d.id = (make d.baseId d.entityType d.bundle d.field d.label).id := congrArg _ made
  rw [hid]
  simp [make, path, String.append_assoc]

theorem colon_mem_path (h : ':' ∈ d.path.toList) :
    ∃ name ∈ [d.entityType, d.bundle, d.field], ':' ∈ name.toList := by
  simpa [path] using h

/-- Two definitions of one base whose names differ in no more than colons and points. -/
def Resembles (d d' : ProviderDefinition) : Prop :=
  d.baseId = d'.baseId ∧ Text.replaceChar ':' '.' d.path = Text.replaceChar ':' '.' d'.path

/-- Different ids that resemble each other have a colon in a name. -/
theorem Resembles.exists_colon (h : d.Resembles d') (made : d.Made) (made' : d'.Made)
    (hne : d.id ≠ d'.id) :
    ∃ name ∈ [d.entityType, d.bundle, d.field, d'.entityType, d'.bundle, d'.field],
      ':' ∈ name.toList := by
  obtain ⟨hbase, hpath⟩ := h
  by_contra hnone
  have hplain : ':' ∉ d.path.toList := fun hcolon => by
    obtain ⟨name, hname, hcolon⟩ := colon_mem_path hcolon
    exact hnone ⟨name, List.mem_append_left [d'.entityType, d'.bundle, d'.field] hname, hcolon⟩
  have hplain' : ':' ∉ d'.path.toList := fun hcolon => by
    obtain ⟨name, hname, hcolon⟩ := colon_mem_path hcolon
    exact hnone ⟨name, List.mem_append_right [d.entityType, d.bundle, d.field] hname, hcolon⟩
  rw [Text.replaceChar_eq_self hplain, Text.replaceChar_eq_self hplain'] at hpath
  exact hne (by rw [made.id_eq, made'.id_eq, hbase, hpath])

end ProviderDefinition

namespace Configuration

/-- The id of a new configuration is cut at its first point as the plugin id is at
its first colon. -/
theorem toList_id_ofPlugin {base : String} (hbase : ':' ∉ base.toList) (path : String) :
    (ofPlugin (base ++ ":" ++ path)).id.toList =
      base.toList ++ '.' :: (Text.replaceChar ':' '.' path).toList := by
  have hsame := congrArg String.toList (Text.replaceChar_eq_self hbase '.')
  rw [Text.toList_replaceChar] at hsame
  simp only [ofPlugin, Text.toList_replaceChar, String.toList_append, List.map_append, hsame]
  simp

theorem id_ofPlugin_eq_iff {base base' : String} (hcolon : ':' ∉ base.toList)
    (hcolon' : ':' ∉ base'.toList) (hpoint : '.' ∉ base.toList) (hpoint' : '.' ∉ base'.toList)
    (path path' : String) :
    (ofPlugin (base ++ ":" ++ path)).id = (ofPlugin (base' ++ ":" ++ path')).id ↔
      base = base' ∧ Text.replaceChar ':' '.' path = Text.replaceChar ':' '.' path' := by
  rw [← String.toList_inj, toList_id_ofPlugin hcolon, toList_id_ofPlugin hcolon']
  constructor
  · intro h
    obtain ⟨hbase, hpath⟩ := Text.append_separator_inj hpoint hpoint' h
    exact ⟨String.toList_inj.1 hbase, String.toList_inj.1 hpath⟩
  · rintro ⟨rfl, hpath⟩
    rw [hpath]

def withSettings (c : Configuration) (settings : ProviderConfiguration) : Configuration :=
  { c with settings }

@[simp] theorem withSettings_id (c : Configuration) (settings : ProviderConfiguration) :
    (c.withSettings settings).id = c.id := rfl

@[simp] theorem withSettings_key (c : Configuration) (settings : ProviderConfiguration) :
    (c.withSettings settings).key = c.key := rfl

theorem field?_toJson_plugin (c : Configuration) :
    c.toJson.field? "provider_plugin" = some (.string c.plugin) := by
  have h : (KeyMap.ofList [("id", Json.string c.id), ("provider_plugin", .string c.plugin),
      ("base_provider_plugin", .string c.basePlugin),
      ("provider_configuration", c.settings.toJson)]).get? "provider_plugin" =
        some (.string c.plugin) := by
    simp [KeyMap.get?_ofList, KeyMap.findEntry]
  exact h

end Configuration

namespace Repository

open Service

variable {schema : Schema} {p q : String} {d d' : ProviderDefinition}

/-- A derivable plugin id is the base before the first colon with the names of the
definition behind it. -/
theorem of_definition?_builtin (h : Registry.builtin.definition? schema p = some d) :
    d.id = p ∧ d.Made ∧ ':' ∉ d.baseId.toList ∧ '.' ∉ d.baseId.toList := by
  obtain ⟨hid, made, hcolon⟩ := Registry.makesIds_builtin.of_definition? h
  refine ⟨hid, made, hcolon, ?_⟩
  obtain ⟨⟨base, _⟩, hresolve, rfl⟩ := Option.map_eq_some_iff.1 h
  obtain ⟨hbase, hderived, -⟩ := Registry.resolve?_eq_some hresolve
  rw [(Registry.makesIds_builtin base hbase schema _ hderived).1]
  rcases Registry.mem_builtin.1 hbase with rfl | rfl | rfl <;> decide

theorem get?_of_save {c : Configuration} {s t : Service} (h : (save c).on s = (.ok (), t))
    (key : String) :
    t.blobs.get? key = if c.key = key then some c.toJson else s.blobs.get? key := by
  rcases save_on c s with hs | ⟨e, hs⟩ <;> rw [hs] at h <;> cases h
  rw [put_blobs, KeyMap.get?_insert]

/-- What is stored for a configuration stays when one of another plugin is saved,
exactly if that has another id. -/
theorem get?_of_saves {c c' : Configuration} {s t u : Service} (hne : c.plugin ≠ c'.plugin)
    (hsave : (save c).on s = (.ok (), t)) (hsave' : (save c').on t = (.ok (), u)) :
    u.blobs.get? c.key = t.blobs.get? c.key ↔ c.id ≠ c'.id := by
  rw [get?_of_save hsave', get?_of_save hsave, if_pos rfl]
  constructor
  · intro hsame hid
    have hkey : c'.key = c.key := congrArg Configuration.keyOf hid.symm
    rw [if_pos hkey, Option.some.injEq] at hsame
    -- one blob would tell two plugins
    have hplugins := congrArg (Json.field? "provider_plugin") hsame
    rw [Configuration.field?_toJson_plugin, Configuration.field?_toJson_plugin] at hplugins
    exact hne (Json.string.inj (Option.some.inj hplugins)).symm
  · exact fun hid => if_neg fun hkey => hid (keyOf_inj hkey).symm

/-- Two providers have configurations of one id exactly if they are of one base and their names
differ in no more than colons and points, for which there must be a colon in a name. What is stored
for the one stays when a configuration of the other is saved, exactly if the ids differ. -/
theorem provider_configurations_apart (hp : Registry.builtin.definition? schema p = some d)
    (hq : Registry.builtin.definition? schema q = some d') (hne : p ≠ q) :
    ((Configuration.ofPlugin p).id = (Configuration.ofPlugin q).id ↔ d.Resembles d') ∧
    (d.Resembles d' → ∃ name ∈ [d.entityType, d.bundle, d.field, d'.entityType,
      d'.bundle, d'.field], ':' ∈ name.toList) ∧
    ∀ (settings settings' : ProviderConfiguration) (s t u : Service),
      (save ((Configuration.ofPlugin p).withSettings settings)).on s = (.ok (), t) →
      (save ((Configuration.ofPlugin q).withSettings settings')).on t = (.ok (), u) →
      (u.blobs.get? (Configuration.ofPlugin p).key = t.blobs.get? (Configuration.ofPlugin p).key ↔
        ¬d.Resembles d') := by
  obtain ⟨hid, made, hcolon, hpoint⟩ := of_definition?_builtin hp
  obtain ⟨hid', made', hcolon', hpoint'⟩ := of_definition?_builtin hq
  have hshared : (Configuration.ofPlugin p).id = (Configuration.ofPlugin q).id ↔
      d.Resembles d' := by
    rw [← hid, ← hid', made.id_eq, made'.id_eq]
    exact Configuration.id_ofPlugin_eq_iff hcolon hcolon' hpoint hpoint' _ _
  refine ⟨hshared, fun h => h.exists_colon made made' (by rwa [hid, hid']), ?_⟩
  intro settings settings' s t u hsave hsave'
  have hplugins : ((Configuration.ofPlugin p).withSettings settings).plugin ≠
      ((Configuration.ofPlugin q).withSettings settings').plugin := hne
  have hkept := get?_of_saves hplugins hsave hsave'
  rwa [Configuration.withSettings_key, Configuration.withSettings_id, Configuration.withSettings_id,
    ne_eq, hshared] at hkept

/-- Articles have two fields that are called alike but for a colon, and one of another name. -/
def alikeNamed : Service :=
  let node : EntityType :=
    { id := "node", keys := { id := "nid", bundle := some "type", label := some "title" } }
  let schema := ((((Schema.insertEntityType {} node).insertBundle
    "node" ⟨"article", "Article"⟩).insertField
    "node" "article" { name := "alias:short", fieldType := "string" }).insertField
    "node" "article" { name := "alias.short", fieldType := "string" }).insertField
    "node" "article" { name := "summary", fieldType := "string" }
  { backend := { store := { schema } } }

theorem provider_configurations_apart_summary :
    Registry.builtin.definition? alikeNamed.schema "field:node.article.alias:short" =
      some (.make "field" "node" "article" "alias:short" "") ∧
    Registry.builtin.definition? alikeNamed.schema "field:node.article.summary" =
      some (.make "field" "node" "article" "summary" "") ∧
    "field:node.article.alias:short" ≠ "field:node.article.summary" ∧
    ∃ t u,
      (save ((Configuration.ofPlugin "field:node.article.alias:short").withSettings {})).on
        alikeNamed = (.ok (), t) ∧
      (save ((Configuration.ofPlugin "field:node.article.summary").withSettings {})).on t =
        (.ok (), u) ∧
      u.blobs.get? (Configuration.ofPlugin "field:node.article.alias:short").key =
        t.blobs.get? (Configuration.ofPlugin "field:node.article.alias:short").key := by
  have hp : Registry.builtin.definition? alikeNamed.schema "field:node.article.alias:short" =
      some (.make "field" "node" "article" "alias:short" "") := by decide +kernel
  have hq : Registry.builtin.definition? alikeNamed.schema "field:node.article.summary" =
      some (.make "field" "node" "article" "summary" "") := by decide +kernel
  obtain ⟨hids, -, hkept⟩ := provider_configurations_apart hp hq (by decide)
  have hapart : (Configuration.ofPlugin "field:node.article.alias:short").id ≠
      (Configuration.ofPlugin "field:node.article.summary").id := by decide +kernel
  have hfirst :
      ((save ((Configuration.ofPlugin "field:node.article.alias:short").withSettings {})).on
        alikeNamed).1 = .ok () := rfl
  have hsecond : ((save ((Configuration.ofPlugin "field:node.article.summary").withSettings {})).on
      ((save ((Configuration.ofPlugin "field:node.article.alias:short").withSettings {})).on
        alikeNamed).2).1 = .ok () := rfl
  have hsave := Step.on_eq_of_fst hfirst
  have hsave' := Step.on_eq_of_fst hsecond
  exact ⟨hp, hq, by decide, _, _, hsave, hsave',
    (hkept {} {} _ _ _ hsave hsave').2 (mt hids.2 hapart)⟩

/-- Two providers of different plugin ids share the id of their configurations, so the second that
is saved replaces the first. -/
theorem colon_replaced :
    (Registry.builtin.definition? alikeNamed.schema "field:node.article.alias:short").isSome ∧
    (Registry.builtin.definition? alikeNamed.schema "field:node.article.alias.short").isSome ∧
    "field:node.article.alias:short" ≠ "field:node.article.alias.short" ∧
    (Configuration.ofPlugin "field:node.article.alias:short").id =
      (Configuration.ofPlugin "field:node.article.alias.short").id ∧
    ((do
      save (.ofPlugin "field:node.article.alias:short")
      save (.ofPlugin "field:node.article.alias.short")
      return (← load "field.node.article.alias.short").map Configuration.plugin :
        Action (Option String)).on alikeNamed).1 =
      .ok (some "field:node.article.alias.short") :=
  ⟨by decide +kernel, by decide +kernel, by decide, by decide +kernel, by decide +kernel⟩

end Repository
end SynonymLookup
