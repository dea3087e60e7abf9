import SynonymLookup.Proofs.Configuration.Coherence
import SynonymLookup.Proofs.Provider.FieldSearch
import SynonymLookup.Proofs.Provider.Registry

/-! Plugin ids read back. A save looks a plugin id up among the derived definitions, while the
bundle that a configuration controls is read off the id itself. The two agree exactly if the parts
that the id was put together of can be told apart in it. -/

namespace SynonymLookup
namespace ProviderDefinition

/-- The parts can be told apart in the id: they are all there, and the type and the
bundle end at the first point. -/
structure Separable (d : ProviderDefinition) : Prop where
  entityType : '.' ∉ d.entityType.toList
  bundle : '.' ∉ d.bundle.toList
  entityType_ne : d.entityType ≠ ""
  bundle_ne : d.bundle ≠ ""
  field_ne : d.field ≠ ""

def parts (d : ProviderDefinition) : PluginId := ⟨d.baseId, d.entityType, d.bundle, d.field⟩

variable {d : ProviderDefinition}

def Made (d : ProviderDefinition) : Prop := d = make d.baseId d.entityType d.bundle d.field d.label

theorem Separable.parse?_id (h : d.Separable) (made : d.Made) (hbase : ':' ∉ d.baseId.toList) :
    PluginId.parse? d.id = some d.parts := by
  rw [made]
  exact PluginId.parse?_make d.label hbase h.entityType h.bundle h.entityType_ne
    h.bundle_ne h.field_ne

theorem separable_of_parse? (made : d.Made) (hbase : ':' ∉ d.baseId.toList) {p : PluginId}
    (hp : PluginId.parse? d.id = some p) (htype : p.entityType = d.entityType)
    (hbundle : p.bundle = d.bundle) : d.Separable := by
  obtain ⟨htypePoint, hbundlePoint⟩ := PluginId.parse?_eq_some hp
  rw [htype] at htypePoint
  rw [hbundle] at hbundlePoint
  have hmade : d.id = (make d.baseId d.entityType d.bundle d.field d.label).id := congrArg _ made
  rw [hmade, PluginId.parse?_make_eq d.field d.label hbase htypePoint hbundlePoint] at hp
  split at hp
  · cases hp
  · rename_i hparts
    simp only [not_or] at hparts
    exact ⟨htypePoint, hbundlePoint, hparts.1, hparts.2.1, hparts.2.2⟩

theorem parse?_id_iff (made : d.Made) (hbase : ':' ∉ d.baseId.toList) :
    PluginId.parse? d.id = some d.parts ↔ d.Separable :=
  ⟨fun h => separable_of_parse? made hbase h rfl rfl, fun h => h.parse?_id made hbase⟩

/-- A configuration controls the bundle that its provider was derived for if that can
be read off its plugin id. -/
theorem controls_iff_separable (made : d.Made) (hbase : ':' ∉ d.baseId.toList) {c : Configuration}
    (hplugin : c.plugin = d.id) : c.controls d.entityType d.bundle = true ↔ d.Separable := by
  rw [Configuration.controls_iff, Configuration.pluginId?, hplugin]
  constructor
  · rintro ⟨p, hp, htype, hbundle⟩
    exact separable_of_parse? made hbase hp htype hbundle
  · exact fun h => ⟨d.parts, h.parse?_id made hbase, rfl, rfl⟩

end ProviderDefinition

namespace Registry

variable {r : Registry} {s : Schema} {plugin : String} {d : ProviderDefinition}

/-- Every base puts the ids of its definitions together of its own id and their parts. -/
def MakesIds (r : Registry) : Prop :=
  ∀ base ∈ r, ∀ s, ∀ d ∈ base.derive s, d.baseId = base.id ∧ d.Made

theorem makesIds_builtin : builtin.MakesIds := by
  intro base hbase s d hd
  obtain ⟨eligible, hderive⟩ := derives_builtin hbase
  rw [hderive] at hd
  obtain ⟨t, -, b, -, f, -, -, rfl⟩ := Schema.mem_deriveFields hd
  exact ⟨rfl, rfl⟩

theorem MakesIds.of_definition? (makes : r.MakesIds) (h : r.definition? s plugin = some d) :
    d.id = plugin ∧ d.Made ∧ ':' ∉ d.baseId.toList := by
  obtain ⟨⟨base, definition⟩, hresolve, hd⟩ := Option.map_eq_some_iff.1 h
  replace hd : definition = d := hd
  subst hd
  obtain ⟨hbase, hderived, hid⟩ := resolve?_eq_some hresolve
  obtain ⟨hown, made⟩ := makes base hbase s definition hderived
  obtain ⟨⟨baseId, rest⟩, hcut, hfound⟩ := Option.bind_eq_some_iff.1 hresolve
  obtain ⟨found, hfind, hpair⟩ := Option.bind_eq_some_iff.1 hfound
  obtain ⟨definition', hfind', hpair⟩ := Option.bind_eq_some_iff.1 hpair
  cases hpair
  refine ⟨hid, made, ?_⟩
  -- the base was looked up by what stands before the first colon
  have hbaseId : base.id = baseId := by simpa using List.find?_some hfind
  obtain ⟨⟨before, after⟩, hchars, hparts⟩ := Option.map_eq_some_iff.1 hcut
  cases hparts
  rw [hown, hbaseId, String.toList_ofList]
  exact (Text.cutChars_eq_some hchars).2

end Registry

namespace Repository

open Service

variable {s : Service} {entityType bundle : String} {c : Configuration}

theorem mem_stored_put {read : Configuration} (h : Configuration.ofJson? c.toJson = some read) :
    read ∈ (s.put c).stored := by
  have hblob : (s.put c).configurationBlobs.get? c.key = some c.toJson := by
    rw [Configuration.key, get?_configurationBlobs_keyOf, put_blobs, KeyMap.get?_insert,
      if_pos (show c.key = Configuration.keyOf c.id from rfl)]
  exact List.mem_filterMap.2 ⟨_, KeyMap.mem_values_iff.2 ⟨_, hblob⟩, h⟩

theorem mem_loadFor_put {read : Configuration} (h : Configuration.ofJson? c.toJson = some read)
    (hcontrols : c.controls entityType bundle = true) {list : List Configuration}
    (hlist : ((loadFor entityType bundle).on (s.put c)).1 = .ok list) : read ∈ list := by
  rcases loadFor_eq_ok (Step.on_eq_of_fst hlist) with ⟨hcached, -⟩ | ⟨rfl, -⟩
  · rw [cached_put, if_pos hcontrols] at hcached
    cases hcached
  · refine List.mem_filter.2 ⟨mem_stored_put h, ?_⟩
    rwa [Configuration.controls_of_plugin_eq (Configuration.ofJson?_toJson_names h).2]

/-- The parts of a definition are read off its plugin id exactly if they can be told apart in it.
Exactly then is a configuration that was saved for it answered for its type and bundle. -/
theorem saved_answered_iff_separable (makes : s.registry.MakesIds) (used : Used s) {plugin : String}
    {d : ProviderDefinition} (hd : s.registry.definition? s.schema plugin = some d) :
    (PluginId.parse? plugin = some d.parts ↔ d.Separable) ∧
    ∀ c s' read, c.plugin = plugin → (save c).on s = (.ok (), s') →
      Configuration.ofJson? c.toJson = some read →
        (∀ list, ((loadFor d.entityType d.bundle).on s').1 = .ok list →
          (read ∈ list ↔ d.Separable)) ∧
        (s.WellFormed → s.Up .configList → s.Up .configGet →
          ∃ list, ((loadFor d.entityType d.bundle).on s').1 = .ok list) := by
  obtain ⟨rfl, made, hbase⟩ := makes.of_definition? hd
  refine ⟨ProviderDefinition.parse?_id_iff made hbase, fun c s' read hplugin hsave hread => ?_⟩
  have hput : s' = s.put c := by
    rcases save_on c s with h | ⟨e, h⟩
    · rw [h] at hsave
      cases hsave
      rfl
    · rw [h] at hsave
      cases hsave
  subst hput
  refine ⟨fun list hlist => ⟨fun hmem => ?_, fun hseparable => ?_⟩, fun wellFormed hup hget => ?_⟩
  · have hcontrols := controls_of_loadFor (used.cachedControl.put c)
      (Step.on_eq_of_fst hlist) read hmem
    have hnames := (Configuration.ofJson?_toJson_names hread).2
    exact (ProviderDefinition.controls_iff_separable made hbase (hnames.trans hplugin)).1 hcontrols
  · exact mem_loadFor_put hread
      ((ProviderDefinition.controls_iff_separable made hbase hplugin).2 hseparable) hlist
  · exact exists_loadFor (wellFormed.put (by rw [hread]; rfl)) (up_put.2 hup) (up_put.2 hget) _ _

def aliased (bundle : String) : Service :=
  let node : EntityType :=
    { id := "node", keys := { id := "nid", bundle := some "type", label := some "title" } }
  let schema := ((Schema.insertEntityType {} node).insertBundle
    "node" ⟨bundle, "Nodes"⟩).insertField
    "node" bundle { name := "alias", fieldType := "string", label := "Alias" }
  { backend := { store := { schema } } }

def aliasDefinition (bundle : String) : ProviderDefinition :=
  ProviderDefinition.make "field" "node" bundle "alias" "Alias"

def aliasConfiguration (bundle : String) : Configuration where
  id := "alias"
  plugin := (aliasDefinition bundle).id

theorem saved_answered_iff_separable_article :
    (aliased "article").registry.definition? (aliased "article").schema
      (aliasConfiguration "article").plugin = some (aliasDefinition "article") ∧
    PluginId.parse? (aliasConfiguration "article").plugin = some (aliasDefinition "article").parts ∧
    ∃ list, ((loadFor "node" "article").on
      ((save (aliasConfiguration "article")).on (aliased "article")).2).1 = .ok list ∧
        aliasConfiguration "article" ∈ list := by
  have used : Used (aliased "article") := .fresh rfl
  have hd : (aliased "article").registry.definition? (aliased "article").schema
      (aliasConfiguration "article").plugin = some (aliasDefinition "article") := by decide +kernel
  have separable : (aliasDefinition "article").Separable :=
    ⟨by decide, by decide, by decide, by decide, by decide⟩
  obtain ⟨hparts, hsaved⟩ := saved_answered_iff_separable Registry.makesIds_builtin used hd
  have hsave : (save (aliasConfiguration "article")).on (aliased "article") =
      (.ok (), ((save (aliasConfiguration "article")).on (aliased "article")).2) :=
    Step.on_eq_of_fst rfl
  have wellFormed : (aliased "article").WellFormed := fun j hj => by cases hj
  obtain ⟨hmem, hanswers⟩ := hsaved (aliasConfiguration "article") _ _ rfl hsave rfl
  obtain ⟨list, hlist⟩ := hanswers wellFormed rfl rfl
  exact ⟨hd, hparts.2 separable, list, hlist, (hmem list hlist).2 separable⟩

/-- The id of a bundle with a point is read as another bundle and field: what is saved for
it is never answered for it. -/
theorem saved_for_other_bundle_read :
    (aliased "page.de").registry.definition? (aliased "page.de").schema
      (aliasConfiguration "page.de").plugin = some (aliasDefinition "page.de") ∧
    PluginId.parse? (aliasConfiguration "page.de").plugin =
      some ⟨"field", "node", "page", "de.alias"⟩ ∧
    ((save (aliasConfiguration "page.de")).on (aliased "page.de")).1 = .ok () ∧
    ((loadFor "node" "page.de").on
      ((save (aliasConfiguration "page.de")).on (aliased "page.de")).2).1 = .ok [] := by
  refine ⟨?_, ?_, ?_, ?_⟩
  · decide +kernel
  · decide +kernel
  · rfl
  · rfl

end Repository
end SynonymLookup
