import SynonymLookup.Proofs.Configuration.Repository
import SynonymLookup.Proofs.Fixture
import SynonymLookup.Proofs.Startup.Setting
import SynonymLookup.Startup.Launch

/-! The settings of a service that was just started: those of the dataset, and under other keys
those that the options stand for. The keys of the latter are apart whatever the ids of behaviors
are, and the services that read them find what the options say. -/

namespace SynonymLookup

open KeyMap

theorem Behavior.defaultsKey_inj {id id' : String} :
    defaultsKey id = defaultsKey id' ↔ id = id' := by
  simp [defaultsKey]

theorem Behavior.defaultsKey_ne (id : String) : defaultsKey id ≠ ModuleSettings.key := by
  intro h
  have hninth := congrArg (fun key : String => key.toList[8]?) h
  simp [defaultsKey, ModuleSettings.key] at hninth

theorem Record.withDefault_ofField {α : Type} (name : String) (j : Json) (read : Json → Option α)
    (default : α) : (Record.mk (KeyMap.ofList [(name, j)]).entries).withDefault name read default =
      read j := by
  rw [withDefault, get?_ofList, List.reverse_singleton, findEntry, if_pos rfl]

theorem ModuleSettings.ofJson?_toJson (x : ModuleSettings) : ofJson? x.toJson = some x := by
  unfold ofJson? toJson
  rw [Json.record?_ofFields, Option.bind_eq_bind, Option.bind_some, Record.withDefault_ofField,
    WordingType.ofJson?_toJson]
  rfl

theorem BehaviorDefaults.ofJson?_toJson (x : BehaviorDefaults) : ofJson? x.toJson = some x := by
  unfold ofJson? toJson
  rw [Json.record?_ofFields, Option.bind_eq_bind, Option.bind_some, Record.withDefault_ofField]
  rfl

section Read

variable {s : Service}

theorem Wording.settings_of_get? (up : s.Up .configGet) {x : ModuleSettings}
    (h : s.blobs.get? ModuleSettings.key = some x.toJson) : settings.on s = (.ok x, s) :=
  Step.on_bind_ok (Repository.getStored_of_get? up h x.ofJson?_toJson)

theorem Behaviors.defaults_of_get? (up : s.Up .configGet) {behavior : String} {x : BehaviorDefaults}
    (h : s.blobs.get? (Behavior.defaultsKey behavior) = some x.toJson) :
    (defaults behavior).on s = (.ok x, s) :=
  Step.on_bind_ok (Repository.getStored_of_get? up h x.ofJson?_toJson)

end Read

namespace Startup

variable {o : Options} {read : String → Option String}

namespace Options

/-- What the options say of a key of the settings: of the module's own, and of the defaults of each
behavior. -/
inductive Seeded (o : Options) : String → Json → Prop
  | wordingType : Seeded o ModuleSettings.key
    (.object [("wording_type", .string o.wordingType.text)])
  | defaultWording {behavior wording : String}
    (h : o.defaultWordings.get? behavior = some wording) :
      Seeded o (Behavior.defaultsKey behavior) (.object [("default_wording", .string wording)])

def defaultEntries (o : Options) : List (String × Json) :=
  o.defaultWordings.entries.map fun e => (Behavior.defaultsKey e.1, BehaviorDefaults.toJson ⟨e.2⟩)

theorem seeds_eq (o : Options) : o.seeds =
    (KeyMap.empty.insert ModuleSettings.key (ModuleSettings.toJson ⟨o.wordingType⟩)).insertAll
      o.defaultEntries := by
  rw [seeds, insertAll, defaultEntries, List.foldl_map]

theorem mem_defaultEntries_iff {key : String} {j : Json} : (key, j) ∈ o.defaultEntries ↔
    ∃ behavior wording, o.defaultWordings.get? behavior = some wording ∧
      key = Behavior.defaultsKey behavior ∧ j = BehaviorDefaults.toJson ⟨wording⟩ := by
  simp only [defaultEntries, List.mem_map, Prod.exists, Prod.mk.injEq, ← get?_eq_some_iff]
  exact exists₂_congr fun _ _ => and_congr_right fun _ => and_congr eq_comm eq_comm

theorem get?_seeds_iff {key : String} {j : Json} : o.seeds.get? key = some j ↔ o.Seeded key j := by
  rw [seeds_eq, get?_insertAll, ← get?_ofList, get?_insert, get?_empty]
  constructor
  · intro h
    rcases Option.or_eq_some_iff.1 h with hfound | ⟨-, hown⟩
    · rw [get?_ofList] at hfound
      obtain ⟨behavior, wording, hwording, rfl, rfl⟩ :=
        mem_defaultEntries_iff.1 (List.mem_reverse.1 (mem_of_findEntry hfound))
      exact .defaultWording hwording
    · split at hown
      · rename_i hkey
        cases hkey
        cases hown
        exact .wordingType
      · cases hown
  · rintro (_ | ⟨h⟩)
    · have hnone : (KeyMap.ofList o.defaultEntries).get? ModuleSettings.key = none := by
        rw [get?_ofList, findEntry_eq_none_iff]
        rintro ⟨key, j⟩ hmem hkey
        obtain ⟨behavior, -, -, hdefaults, -⟩ := mem_defaultEntries_iff.1 (List.mem_reverse.1 hmem)
        exact Behavior.defaultsKey_ne behavior (hdefaults.symm.trans hkey)
      rw [hnone, Option.none_or, if_pos rfl]
      rfl
    · rename_i behavior wording
      have hfound : (KeyMap.ofList o.defaultEntries).get? (Behavior.defaultsKey behavior) =
          some (BehaviorDefaults.toJson ⟨wording⟩) := by
        refine get?_ofList_of_unique
          (mem_defaultEntries_iff.2 ⟨behavior, wording, h, rfl, rfl⟩) fun j hj => ?_
        obtain ⟨behavior', wording', h', hkey, rfl⟩ := mem_defaultEntries_iff.1 hj
        rw [← Behavior.defaultsKey_inj.1 hkey, h] at h'
        cases h'
        rfl
      rw [hfound]
      rfl

/-- The dataset that the options name, an empty one if they name none. -/
def dataset? (o : Options) (read : String → Option String) : Option Fixture :=
  match o.fixture with
  | none => some {}
  | some path => (read path).bind Fixture.ofText?

end Options

theorem launch_eq_ok_iff {s : Service} : launch o read = .ok s ↔
    ∃ f, o.dataset? read = some f ∧ s = Service.ofFixture f o.seeds := by
  have hlaunch : (launch o read).toOption =
      (o.dataset? read).map fun f => Service.ofFixture f o.seeds := by
    unfold launch Options.dataset?
    cases o.fixture with
    | none => rfl
    | some path =>
      dsimp only
      cases read path with
      | none => rfl
      | some text =>
        dsimp only [Option.bind_some]
        cases Fixture.ofText? text <;> rfl
  have hok : launch o read = .ok s ↔ (launch o read).toOption = some s := by
    cases launch o read <;> simp [Except.toOption]
  rw [hok, hlaunch, Option.map_eq_some_iff]
  exact exists_congr fun f => and_congr_right fun _ => eq_comm

/-- A service is started from sources exactly if its options can be loaded and its dataset read. -/
theorem start_eq_ok_iff {sources : Sources} {fixture : Option String} {s : Service} :
    start sources fixture read = .ok s ↔ ∃ o f, sources.load = .ok o ∧
      Options.dataset? { o with fixture := fixture.or o.fixture } read = some f ∧
      s = Service.ofFixture f o.seeds := by
  unfold start
  cases hload : sources.load with
  | error e => simp
  | ok o => simp [launch_eq_ok_iff, Options.seeds]

/-- Under the keys of the dataset stand its settings, and under the others those that
the options stand for. -/
theorem get?_ofFixture_iff {f : Fixture} {key : String} {j : Json} :
    (Service.ofFixture f o.seeds).blobs.get? key = some j ↔
      f.config.get? key = some j ∨ f.config.get? key = none ∧ o.Seeded key j := by
  have hblobs : (Service.ofFixture f o.seeds).blobs = o.seeds.insertAll f.config.entries := rfl
  rw [hblobs, get?_insertAll_entries, Option.or_eq_some_iff, Options.get?_seeds_iff]

/-- Each setting of a service that was started is the dataset's if the dataset has its key, and else
the one that the options stand for; there is no other. Where the dataset has no settings of its own
for them, the wording type and the default wording of each behavior are read as the options give
them, whatever the ids of the behaviors. -/
theorem settings_seeded_under_dataset {s : Service} (h : launch o read = .ok s) :
    ∃ f, o.dataset? read = some f ∧
      (∀ key j, s.blobs.get? key = some j ↔
        f.config.get? key = some j ∨ f.config.get? key = none ∧ o.Seeded key j) ∧
      (f.config.get? ModuleSettings.key = none →
        Wording.settings.on s = (.ok ⟨o.wordingType⟩, s)) ∧
      ∀ behavior wording, o.defaultWordings.get? behavior = some wording →
        f.config.get? (Behavior.defaultsKey behavior) = none →
        (Behaviors.defaults behavior).on s = (.ok ⟨wording⟩, s) := by
  obtain ⟨f, hf, rfl⟩ := launch_eq_ok_iff.1 h
  have up : (Service.ofFixture f o.seeds).Up .configGet := rfl
  refine ⟨f, hf, fun key j => get?_ofFixture_iff, fun hfree =>
    ?_, fun behavior wording hwording hfree => ?_⟩
  · have hstored := get?_ofFixture_iff.2 (.inr ⟨hfree, Options.Seeded.wordingType (o := o)⟩)
    exact Wording.settings_of_get? up (x := ⟨o.wordingType⟩) hstored
  · have hstored := get?_ofFixture_iff.2 (.inr ⟨hfree, Options.Seeded.defaultWording hwording⟩)
    exact Behaviors.defaults_of_get? up hstored

def widgetOptions : Options where
  fixture := some "seed.json"
  wordingType := .default
  defaultWordings := KeyMap.ofList
    [("select", "@synonym"), ("autocomplete", "@synonym, @entity_label")]

def widgetFile (path : String) : Option String :=
  if path = "seed.json" then
    some ("\x7b\"config\": \x7b\"synonyms_select.settings\": " ++
      "\x7b\"default_wording\": \"@synonym [@entity_label]\"\x7d\x7d\x7d")
  else none

theorem settings_seeded_under_dataset_widgets : ∃ s, launch widgetOptions widgetFile = .ok s ∧
    (s.blobs.get? "synonyms_select.settings").map Json.compact =
      some "\x7b\"default_wording\":\"@synonym [@entity_label]\"\x7d" ∧
    Wording.settings.on s = (.ok ⟨.default⟩, s) ∧
    (Behaviors.defaults "autocomplete").on s = (.ok ⟨"@synonym, @entity_label"⟩, s) := by
  have hsome : (widgetOptions.dataset? widgetFile).isSome = true := by decide +kernel
  obtain ⟨f, hread⟩ := Option.isSome_iff_exists.1 hsome
  have hlaunch := launch_eq_ok_iff.2 ⟨f, hread, rfl⟩
  obtain ⟨f', hf, hstored, hsettings, hdefaults⟩ := settings_seeded_under_dataset hlaunch
  have hconfig : (widgetOptions.dataset? widgetFile).all (fun f =>
      (f.config.get? ModuleSettings.key).isNone &&
      (f.config.get? (Behavior.defaultsKey "autocomplete")).isNone &&
      ((f.config.get? "synonyms_select.settings").map Json.compact ==
        some "\x7b\"default_wording\":\"@synonym [@entity_label]\"\x7d")) = true := by
    decide +kernel
  simp only [hf, Option.all_some, Bool.and_eq_true, Option.isNone_iff_eq_none, beq_iff_eq]
    at hconfig
  obtain ⟨⟨hnone, hfree⟩, hselect⟩ := hconfig
  refine ⟨_, hlaunch, ?_, hsettings hnone, hdefaults "autocomplete" _ (by decide +kernel) hfree⟩
  obtain ⟨j, hj, hcompact⟩ := Option.map_eq_some_iff.1 hselect
  rw [(hstored _ j).2 (.inl hj), Option.map_some, hcompact]

end Startup
end SynonymLookup
