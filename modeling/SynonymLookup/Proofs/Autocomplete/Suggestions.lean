import SynonymLookup.Proofs.Autocomplete.Suggest
import SynonymLookup.Proofs.Like.Keyword

/-! What is suggested without uniqueness: the labels that match, then the matching synonyms bundle
by bundle and configuration by configuration, cut off at the size asked for. -/

namespace SynonymLookup

namespace Like

theorem isMatch_pattern_empty (m : MatchMode) (text : String) :
    isMatch (m.pattern "") text = true := by
  have hempty : (Text.lowercase "").toList = [] := by decide
  cases m with
  | contains => rw [isMatch_contains_iff, hempty]; exact List.nil_infix
  | startsWith => rw [isMatch_startsWith_iff, hempty]; exact List.nil_prefix

end Like

/-- A plugin id that can be read is read as of the type that it was derived for. -/
def Schema.TypesReadBack (s : Schema) : Prop :=
  ∀ base ∈ Registry.builtin, ∀ d ∈ base.derive s, ∀ p, PluginId.parse? d.id = some p →
    p.entityType = d.entityType

theorem Schema.ReadsBack.types {s : Schema} (h : s.ReadsBack) : s.TypesReadBack :=
  fun base hbase d hd p hp => (h base hbase d hd p hp).1

namespace Autocomplete

open Service Repository

variable {s s' : Service} {a : AutocompleteSettings} {keyword : String}

def labelBundles (a : AutocompleteSettings) (schema : Schema) : List String :=
  if a.targetBundles.isEmpty then schema.bundleIds a.targetType else a.targetBundles

/-- The entities whose labels match, bundle by bundle and in each by id. -/
def labelReference (s : Service) (a : AutocompleteSettings) (keyword : String) :
    List (EntityId × Option String) :=
  (labelBundles a s.schema).flatMap fun bundle =>
    ((s.store.entitiesOf a.targetType).values.filter fun e =>
      e.bundle == bundle && Like.isMatch (a.mode.pattern keyword) e.labelText).map fun e =>
        (e.id, none)

/-- The synonyms that are found for a keyword, bundle by bundle where autocomplete is on, and in
each configuration by configuration. -/
def synonymReference (s : Service) (a : AutocompleteSettings) (keyword : String) :
    List (EntityId × Option String) :=
  ((targetBundles a s.schema).filter
      (Behaviors.isOn s Behavior.autocomplete.id a.targetType)).flatMap fun bundle =>
    (s.configurationsOf a.targetType bundle).flatMap fun c =>
      (Lookup.contribution s (synonymCondition a keyword) c).map fun r =>
        (r.entityId, some r.synonym)

def reference (s : Service) (a : AutocompleteSettings) (keyword : String) :
    List (EntityId × Option String) :=
  labelReference s a keyword ++ synonymReference s a keyword

def labels (s : Service) (a : AutocompleteSettings) (keyword : String) : List Referenceable :=
  s.store.labelMatches (selection keyword a)

def allMatches (s : Service) (a : AutocompleteSettings) (keyword : String) : List Match :=
  (configurationsOn s a.targetType (targetBundles a s.schema)).flatMap (matchesOf s a keyword)

/-- A missing keyword matches every label, with the store's shortcut for it as well as without. -/
theorem map_labels (s : Service) (a : AutocompleteSettings) (keyword : String) :
    (labels s a keyword).map (fun r => (r.id, (none : Option String))) =
      labelReference s a keyword := by
  have hmatch (e : Entity) :
      (keyword.isEmpty || Like.isMatch (a.mode.pattern keyword) e.labelText) =
      Like.isMatch (a.mode.pattern keyword) e.labelText := by
    by_cases hempty : keyword = ""
    · rw [hempty, Like.isMatch_pattern_empty, Bool.or_true]
    · rw [show keyword.isEmpty = false by simpa using hempty, Bool.false_or]
  simp only [labels, Store.labelMatches, selection, hmatch, labelReference, labelBundles,
    List.map_flatMap, List.map_map]
  rfl

theorem map_allMatches (s : Service) (a : AutocompleteSettings) (keyword : String) :
    (allMatches s a keyword).map Match.pair = synonymReference s a keyword := by
  simp only [allMatches, configurationsOn, synonymReference, List.flatMap_assoc, List.map_flatMap,
    matchesOf, results, List.map_map]
  rfl

def taken (s : Service) (a : AutocompleteSettings) (keyword : String) : Taken :=
  let byLabel := (labels s a keyword).take a.size
  matched s a keyword (a.size - byLabel.length) ⟨[], suggestedFirst a byLabel⟩
    (configurationsOn s a.targetType (targetBundles a s.schema))

/-- Where the labels leave no room, it does not matter which configurations would be searched. -/
theorem matched_searched {list : List Configuration}
    (h : ((searched a ((labels s a keyword).take a.size).length).on s).1 = .ok list) :
    matched s a keyword (a.size - ((labels s a keyword).take a.size).length)
      ⟨[], suggestedFirst a ((labels s a keyword).take a.size)⟩ list = taken s a keyword := by
  by_cases hroom : ((labels s a keyword).take a.size).length < a.size
  · rw [configurations_of_searched h hroom, taken]
  · have hfull : a.size - ((labels s a keyword).take a.size).length = 0 :=
      Nat.sub_eq_zero_of_le (Nat.le_of_not_lt hroom)
    rw [taken, hfull, matched_of_full (Nat.zero_le _), matched_of_full (Nat.zero_le _)]

section Answers

variable (registry : s.registry = Registry.builtin) (built : s.store.Built)
include registry built

theorem exists_of_suggest {suggestions : List Suggestion}
    (h : ((suggest keyword a).on s).1 = .ok suggestions) (hsize : a.size ≠ 0) :
    ∃ entities shown, ((loadMatched a.targetType (taken s a keyword).found).on s).1 = .ok entities ∧
      ((presented entities (taken s a keyword).found).on s).1 = .ok shown ∧
      suggestions = ((labels s a keyword).take a.size).map ofLabel ++ shown := by
  obtain ⟨byLabel, list, entities, shown, hselect, hsearched, hloaded, hpresented, rfl⟩ :=
    (suggest_eq_ok registry built hsize).1 h
  obtain ⟨-, hlabels⟩ := of_select (q := selection keyword a) hsize hselect
  replace hlabels : byLabel = (labels s a keyword).take a.size := hlabels
  subst hlabels
  rw [matched_searched hsearched] at hloaded hpresented
  exact ⟨entities, shown, hloaded, hpresented, rfl⟩

theorem exists_provider_of_mem_allMatches {m : Match} (h : m ∈ allMatches s a keyword) :
    ∃ bundle p, m.configuration ∈ s.configurationsOf a.targetType bundle ∧
      m.configuration.provider s.registry s.schema = .ok p ∧
      (s.store.load p.definition.entityType m.entityId).isSome := by
  obtain ⟨c, hc, hm⟩ := List.mem_flatMap.1 h
  obtain ⟨bundle, -, hc⟩ := List.mem_flatMap.1 hc
  obtain ⟨r, hr, rfl⟩ := List.mem_map.1 hm
  obtain ⟨p, hp, hstored⟩ := Lookup.exists_provider_of_mem_contribution registry built
    (askable_synonymCondition a keyword) hr
  exact ⟨bundle, p, hc, hp, hstored⟩

theorem isShown_eq {entities : KeyMap Entity} {m : Match} (h : m ∈ allMatches s a keyword)
    (hget : entities.get? m.entityId.text = s.store.load a.targetType m.entityId) :
    isShown s entities m = (s.store.load a.targetType m.entityId).isSome := by
  obtain ⟨-, p, -, hp, -⟩ := exists_provider_of_mem_allMatches registry built h
  have hok : (Except.ok p : Except LookupError Provider).isOk = true := rfl
  rw [isShown, hget, hp, hok, Bool.and_true]

/-- Matches are of stored entities of the type, as far as plugin ids are read back. -/
theorem isSome_of_mem_allMatches (cached : CachedControl s) (readsBack : s.schema.TypesReadBack)
    {m : Match} (h : m ∈ allMatches s a keyword) :
    (s.store.load a.targetType m.entityId).isSome := by
  obtain ⟨bundle, p, hc, hp, hstored⟩ := exists_provider_of_mem_allMatches registry built h
  obtain ⟨q, hq, htype, -⟩ :=
    Configuration.controls_iff.1 (Lookup.controls_of_mem_configurationsOf cached hc)
  rw [Configuration.provider, registry] at hp
  obtain ⟨base, hbase, d, hd, hplugin, rfl⟩ := Registry.create_eq_ok hp
  have hdefinition : (base.create s.schema d m.configuration.settings).definition = d := by
    rcases Registry.mem_builtin.1 hbase with rfl | rfl | rfl <;> rfl
  have hread : q.entityType = d.entityType := readsBack base hbase d hd q (hplugin ▸ hq)
  rwa [hdefinition, ← hread, htype] at hstored

/-- The suggestions are the labels and those of the taken matches whose entities are
stored under the type. -/
theorem pairs_of_suggest (hidden : s.backend.outages.hidden = []) {suggestions : List Suggestion}
    (h : ((suggest keyword a).on s).1 = .ok suggestions) (hsize : a.size ≠ 0)
    (hall : ∀ m ∈ (taken s a keyword).found, m ∈ allMatches s a keyword) :
    suggestions.map ofSuggestion =
      (labelReference s a keyword).take a.size ++ ((taken s a keyword).found.filter fun m =>
        (s.store.load a.targetType m.entityId).isSome).map Match.pair ∧
    ∀ x ∈ suggestions, x.synonym.isSome = true → ∃ e,
      s.store.load a.targetType x.entityId = some e ∧ x.entityLabel = e.labelText := by
  obtain ⟨entities, shown, hloaded, hpresented, rfl⟩ := exists_of_suggest registry built h hsize
  obtain ⟨hpairs, hlabels, -⟩ := of_presented hpresented
  have hget {m : Match} (hm : m ∈ (taken s a keyword).found) :=
    get?_of_loadMatched hidden built hloaded hm
  have hshown : (taken s a keyword).found.filter (isShown s entities) =
      (taken s a keyword).found.filter fun m => (s.store.load a.targetType m.entityId).isSome :=
    List.filter_congr fun m hm => isShown_eq registry built (hall m hm) (hget hm)
  have hfirst : (((labels s a keyword).take a.size).map ofLabel).map ofSuggestion =
      (labelReference s a keyword).take a.size := by
    rw [← map_labels, ← List.map_take, List.map_map]
    rfl
  refine ⟨by rw [List.map_append, hfirst, hpairs, hshown], fun x hx hsynonym => ?_⟩
  rcases List.mem_append.1 hx with hx | hx
  · obtain ⟨r, -, rfl⟩ := List.mem_map.1 hx
    cases hsynonym
  · obtain ⟨e, he, hlabel⟩ := hlabels x hx
    have hmem : ofSuggestion x ∈ ((taken s a keyword).found.filter (isShown s entities)).map
        Match.pair := hpairs ▸ List.mem_map_of_mem hx
    obtain ⟨m, hm, hpair⟩ := List.mem_map.1 hmem
    have hid : m.entityId = x.entityId := congrArg Prod.fst hpair
    refine ⟨e, ?_, hlabel⟩
    rw [← hid, ← hget (List.mem_filter.1 hm).1, hid, he]

end Answers

/-- Without uniqueness, all matches are taken in order as far as the labels leave room. -/
theorem taken_any (hunique : a.onlyUnique = false) :
    (taken s a keyword).found =
      (allMatches s a keyword).take (a.size - ((labels s a keyword).take a.size).length) := by
  have hfirst (byLabel : List Referenceable) : suggestedFirst a byLabel = [] := by
    rw [suggestedFirst, hunique]
    rfl
  rw [taken]
  simp only [hfirst]
  rw [matched_any hunique, List.nil_append, List.length_nil, Nat.sub_zero]
  rfl

theorem length_room (s : Service) (a : AutocompleteSettings) (keyword : String) :
    a.size - ((labels s a keyword).take a.size).length =
      a.size - (labelReference s a keyword).length := by
  rw [← map_labels, List.length_map, List.length_take]
  omega

theorem isNone_of_mem_labelReference {x : EntityId × Option String}
    (h : x ∈ labelReference s a keyword) : x.2.isNone = true := by
  rw [← map_labels] at h
  obtain ⟨r, -, rfl⟩ := List.mem_map.1 h
  rfl

/-- As many labels as are asked for are suggested without any query. -/
theorem suggest_of_labels {suggestions : List Suggestion}
    (h : (suggest keyword a).on s = (.ok suggestions, s'))
    (hfull : a.size ≤ (labelReference s a keyword).length) : s' = s := by
  by_cases hsize : a.size = 0
  · rw [suggest, if_pos hsize] at h
    cases h
    rfl
  · rw [suggest_eq keyword hsize] at h
    obtain ⟨byLabel, s₁, hselect, hrest⟩ := Step.exists_of_on_bind h
    obtain ⟨rfl, -⟩ := Lookup.ask_eq_ok hselect
    obtain ⟨-, hlabels⟩ := of_select (q := selection keyword a) hsize (congrArg Prod.fst hselect)
    replace hlabels : byLabel = (labels s₁ a keyword).take a.size := hlabels
    have hlength : byLabel.length = a.size := by
      rw [← map_labels, List.length_map] at hfull
      rw [hlabels, List.length_take_of_le hfull]
    -- no room is left, so nothing is searched and nothing loaded
    rw [searched, if_neg (by omega)] at hrest
    cases hrest
    rfl

section Any

variable (registry : s.registry = Registry.builtin) (built : s.store.Built)
  (hidden : s.backend.outages.hidden = []) (hunique : a.onlyUnique = false)
include registry built hidden hunique

theorem pairs_of_any {suggestions : List Suggestion}
    (h : ((suggest keyword a).on s).1 = .ok suggestions) :
    suggestions.map ofSuggestion = ((reference s a keyword).take a.size).filter (fun x =>
      x.2.isNone || (s.store.load a.targetType x.1).isSome) ∧
    ∀ x ∈ suggestions, x.synonym.isSome = true → ∃ e,
      s.store.load a.targetType x.entityId = some e ∧ x.entityLabel = e.labelText := by
  by_cases hsize : a.size = 0
  · have hnone : suggestions = [] := by
      rw [suggest, if_pos hsize] at h
      exact (Except.ok.inj h).symm
    subst hnone
    rw [hsize, List.take_zero]
    exact ⟨rfl, fun x hx => absurd hx List.not_mem_nil⟩
  have htaken : (taken s a keyword).found = _ := taken_any hunique
  rw [length_room] at htaken
  have hall : ∀ m ∈ (taken s a keyword).found, m ∈ allMatches s a keyword := by
    intro m hm
    rw [htaken] at hm
    exact List.mem_of_mem_take hm
  obtain ⟨hpairs, hlabels⟩ := pairs_of_suggest registry built hidden h hsize hall
  -- the labels stay, and a synonym stays if the entity of its match does
  have hkept : ((labelReference s a keyword).take a.size).filter (fun x =>
      x.2.isNone || (s.store.load a.targetType x.1).isSome) =
        (labelReference s a keyword).take a.size := by
    rw [List.filter_eq_self]
    intro x hx
    rw [isNone_of_mem_labelReference (List.mem_of_mem_take hx), Bool.true_or]
  refine ⟨?_, hlabels⟩
  rw [hpairs, reference, List.take_append, List.filter_append, hkept, htaken, ← map_allMatches,
    ← List.map_take, List.filter_map]
  rfl

theorem pairs_of_stored {suggestions : List Suggestion}
    (h : ((suggest keyword a).on s).1 = .ok suggestions)
    (stored : ∀ m ∈ allMatches s a keyword, (s.store.load a.targetType m.entityId).isSome) :
    suggestions.map ofSuggestion = (reference s a keyword).take a.size := by
  rw [(pairs_of_any registry built hidden hunique h).1, List.filter_eq_self]
  intro x hx
  rcases List.mem_append.1 (List.mem_of_mem_take hx) with hx | hx
  · rw [isNone_of_mem_labelReference hx, Bool.true_or]
  · rw [← map_allMatches] at hx
    obtain ⟨m, hm, rfl⟩ := List.mem_map.1 hx
    exact Bool.or_eq_true_iff.2 (.inr (stored m hm))

/-- Without uniqueness the suggestions are the beginning of the reference list, of the size asked
for, but without the synonyms whose entities are not stored under the target type. There are none of
these if plugin ids are read back as of the type they were derived for. A synonym comes with the
label of its stored entity, and where the labels fill the size nothing is queried or cached. -/
theorem suggestions_eq_reference {suggestions : List Suggestion}
    (h : (suggest keyword a).on s = (.ok suggestions, s')) :
    suggestions.map ofSuggestion = ((reference s a keyword).take a.size).filter (fun x =>
      x.2.isNone || (s.store.load a.targetType x.1).isSome) ∧
    (Used s → s.schema.TypesReadBack →
      suggestions.map ofSuggestion = (reference s a keyword).take a.size) ∧
    (∀ x ∈ suggestions, x.synonym.isSome = true → ∃ e,
      s.store.load a.targetType x.entityId = some e ∧ x.entityLabel = e.labelText) ∧
    (a.size ≤ (labelReference s a keyword).length → s' = s) := by
  have hsuggest : ((suggest keyword a).on s).1 = .ok suggestions := congrArg Prod.fst h
  obtain ⟨hpairs, hlabels⟩ := pairs_of_any registry built hidden hunique hsuggest
  refine ⟨hpairs, fun used readsBack => ?_, hlabels, suggest_of_labels h⟩
  exact pairs_of_stored registry built hidden hunique hsuggest fun m hm =>
    isSome_of_mem_allMatches registry built used.cachedControl readsBack hm

end Any

def foxStore (fox owl : String) : Store :=
  let node : EntityType :=
    { id := "node", keys := { id := "nid", bundle := some "type", label := some "title" } }
  let named : Entity :=
    { entityType := "node", bundle := "article", id := ⟨fox⟩, label := some "Fox" }
  let aliased : Entity :=
    { entityType := "node", bundle := "article", id := ⟨owl⟩, label := some "Owl" }
  let described := ((({} : Store).mapSchema (·.insertEntityType node)).mapSchema
    (·.insertBundle "node" ⟨"article", "Article"⟩)).mapSchema
    (·.insertField "node" "article" { name := "alias", fieldType := "string" })
  (described.insertEntity named).insertEntity
    (aliased.withValues "alias" [.string "Foxy", .string "Firefox"])

def completing (store : Store) (plugin : String) : Service :=
  let c : Configuration := { id := "alias", plugin }
  let setting : BehaviorSetting := { status := true }
  { backend := { store }
    blobs := (KeyMap.empty.insert c.key c.toJson).insert
      (Behavior.settingKey Behavior.autocomplete.id "node" "article") setting.toJson }

def foxService (fox owl : String) : Service :=
  completing (foxStore fox owl) "field:node.article.alias"

theorem built_foxStore (fox owl : String) : (foxStore fox owl).Built :=
  .insertEntity _ (.insertEntity _
    (.insertField _ _ _ (.insertBundle _ _ (.insertEntityType _ .empty))))

theorem typesReadBack_foxService : (foxService "1" "2").schema.TypesReadBack := by
  have hentries : ∀ e ∈ (foxService "1" "2").schema.entityTypes.entries, '.' ∉ e.1.toList ∧
      ∀ b ∈ (foxService "1" "2").schema.bundlesOf e.1, '.' ∉ b.id.toList := by decide
  refine (Schema.readsBack_of_plain (built_foxStore "1" "2")
    (fun h => (hentries _ (KeyMap.get?_eq_some_iff.1 h)).1) fun {entityType b} hb => ?_).types
  cases ht : (foxService "1" "2").schema.entityType? entityType with
  | none =>
    replace hb : b ∈ (foxService "1" "2").schema.bundlesOf entityType := hb
    rw [Schema.bundlesOf, ht] at hb
    cases hb
  | some t => exact (hentries _ (KeyMap.get?_eq_some_iff.1 ht)).2 b hb

theorem suggest_fox :
    ((suggest "fox" { targetType := "node" }).on (foxService "1" "2")).1 =
      .ok [⟨⟨"1"⟩, "Fox", "Fox", none⟩, ⟨⟨"2"⟩, "Owl", "Foxy", some "Foxy"⟩,
        ⟨⟨"2"⟩, "Owl", "Firefox", some "Firefox"⟩] ∧
    ((suggest "fox" { targetType := "node", size := 2 }).on (foxService "1" "2")).1 =
      .ok [⟨⟨"1"⟩, "Fox", "Fox", none⟩, ⟨⟨"2"⟩, "Owl", "Foxy", some "Foxy"⟩] ∧
    ((suggest "fox" { targetType := "node", onlyUnique := true }).on (foxService "1" "2")).1 =
      .ok [⟨⟨"1"⟩, "Fox", "Fox", none⟩, ⟨⟨"2"⟩, "Owl", "Foxy", some "Foxy"⟩] := by
  decide +kernel

theorem suggestions_eq_reference_fox :
    ((suggest "fox" { targetType := "node", size := 2 }).on (foxService "1" "2")).1 =
      .ok [⟨⟨"1"⟩, "Fox", "Fox", none⟩, ⟨⟨"2"⟩, "Owl", "Foxy", some "Foxy"⟩] ∧
    (reference (foxService "1" "2") { targetType := "node", size := 2 } "fox").take 2 =
      [(⟨"1"⟩, none), (⟨"2"⟩, some "Foxy")] := by
  obtain ⟨-, hsuggest, -⟩ := suggest_fox
  have used : Used (foxService "1" "2") := .fresh rfl
  have hpairs := (suggestions_eq_reference (s := foxService "1" "2")
    (a := { targetType := "node", size := 2 }) rfl (built_foxStore "1" "2") rfl rfl
    (Step.on_eq_of_fst hsuggest)).2.1 used typesReadBack_foxService
  exact ⟨hsuggest, hpairs.symm⟩

/-- A type whose id goes on where that of nodes ends, so that its plugin ids are read
as of articles. -/
def fileStore : Store :=
  let node : EntityType :=
    { id := "node", keys := { id := "nid", bundle := some "type", label := some "title" } }
  let file : EntityType := { id := "node.article", keys := { label := some "name" } }
  let owl : Entity :=
    { entityType := "node.article", bundle := "node.article", id := ⟨"1"⟩, label := some "Owl" }
  let described := (((({} : Store).mapSchema (·.insertEntityType node)).mapSchema
    (·.insertEntityType file)).mapSchema
    (·.insertBundle "node" ⟨"article", "Article"⟩)).mapSchema
    (·.insertField "node.article" "node.article" { name := "alias", fieldType := "string" })
  described.insertEntity (owl.withValues "alias" [.string "Foxy"])

/-- A match is dropped: its entity is of another type than the target type, and so is
not found there. -/
theorem match_of_other_type_dropped :
    ((suggest "fox" { targetType := "node" }).on
      (completing fileStore "field:node.article.node.article.alias")).1 = .ok [] ∧
    (reference (completing fileStore "field:node.article.node.article.alias")
      { targetType := "node" } "fox").take 10 = [(⟨"1"⟩, some "Foxy")] := by
  constructor
  · decide +kernel
  · decide +kernel

end Autocomplete
end SynonymLookup
