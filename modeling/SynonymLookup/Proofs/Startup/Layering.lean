import SynonymLookup.Proofs.Startup.Search
import SynonymLookup.Proofs.Startup.Setting
import SynonymLookup.Proofs.Startup.Trees

/-! The layers of options. Each setting follows the last source that decides about it: the one that
sets it, or that puts something other than a table where a table of the setting belongs. -/

namespace SynonymLookup

open Json

namespace Startup

theorem Setting.at?_toJson (x : Setting) (o : Options) :
    at? x.path o.toJson = (x.get o).map x.spec.form.write := x.lawful.written o

/-- The options follow the last source that decides about a setting. If that source does not set it,
the setting has its default, unless a list stands on the way and lists it. -/
def FollowsLast (sources : List Json) (o : Options) (x : Setting) : Prop :=
  match (lastDeciding x.path sources).bind (leaf? x.path) with
  | some v => ∃ b, x.spec.form.read v = some b ∧ x.get o = some b
  | none => (∀ b, x.get o = some b → x.spec.default = some b) ∨
    ∃ before rest items v b, x.spec.parts = before ++ rest ∧
      (lastDeciding (before.map Part.name) sources).bind (leaf? (before.map Part.name)) =
        some (.array items) ∧
      place? rest (.array items) = some v ∧ x.spec.form.read v = some b ∧ x.get o = some b

/-- What can be a source: written options, or a tree without null. -/
inductive IsSource : Json → Prop
  | written (o : Options) : IsSource o.toJson
  | tree {j : Json} (h : Tree NotNull j) : IsSource j

theorem IsSource.tree_any {j : Json} (h : IsSource j) : Tree (fun _ => True) j := by
  cases h with
  | written o => exact o.tree_toJson
  | tree h => exact h.mono fun _ _ => trivial

theorem IsSource.leaf?_ne_null {j : Json} (h : IsSource j) (x : Setting) (name : String) :
    leaf? (x.path ++ [name]) j ≠ some .null := by
  intro hnull
  cases h with
  | written o =>
    obtain ⟨hat, -⟩ := leaf?_eq_some_iff.1 hnull
    rw [at?_append, x.at?_toJson, Option.bind_eq_some_iff] at hat
    obtain ⟨v, hv, hat⟩ := hat
    obtain ⟨b, -, rfl⟩ := Option.map_eq_some_iff.1 hv
    have hscalar := x.lawful.form.not_table b
    rw [at?_cons, Option.bind_eq_some_iff] at hat
    obtain ⟨w, hw, -⟩ := hat
    cases hwrite : x.spec.form.write b <;> simp_all [field?, isTable]
  | tree h =>
    have hnot : NotNull .null := h.allowed_of_leaf? hnull
    exact absurd hnot (by decide : ¬ isNull .null = false)

/-- Options read from sources laid over each other follow the last source, in every setting. -/
theorem followsLast_of_ofJson? {base : Json} {layers : List Json} {o : Options}
    (hsources : ∀ j ∈ base :: layers, IsSource j)
    (h : Options.ofJson? (overlayAll base layers) = some o) (x : Setting) :
    FollowsLast (base :: layers) o x := by
  have htrees : ∀ j ∈ layers, Tree (fun _ => True) j :=
    fun j hj => (hsources j (List.mem_cons_of_mem _ hj)).tree_any
  have htree : Tree (fun _ => True) (overlayAll base layers) :=
    (hsources base List.mem_cons_self).tree_any.overlayAll htrees
  have hleaf (path : List String) := leaf?_overlayAll path base htrees
  unfold FollowsLast
  cases hx : (lastDeciding x.path (base :: layers)).bind (leaf? x.path) with
  | some v =>
    obtain ⟨hat, -⟩ := leaf?_eq_some_iff.1 ((hleaf x.path).trans hx)
    exact x.lawful.reads.placed h (place?_of_at? htree hat)
  | none =>
    cases hplace : place? x.spec.parts (overlayAll base layers) with
    | none => exact .inl fun b hb => x.lawful.reads.missing h hplace hb
    | some v =>
      obtain ⟨b, hread, hb⟩ := x.lawful.reads.placed h hplace
      cases hat : at? x.path (overlayAll base layers) with
      | none =>
        obtain ⟨before, rest, items, hparts, hlist, hrest⟩ := exists_list_of_place? htree hplace hat
        exact .inr ⟨before, rest, items, v, b, hparts, (hleaf _).symm.trans hlist, hrest, hread, hb⟩
      | some w =>
        -- a table stands there, and only a constant could be read of it: but no source has its null
        exfalso
        have hw : w = v := Option.some.inj ((place?_of_at? htree hat).symm.trans hplace)
        subst hw
        have htable : w.isTable = true := by
          by_contra hscalar
          have hfound := leaf?_eq_some_iff.2 ⟨hat, by simpa using hscalar⟩
          rw [hleaf, hx] at hfound
          cases hfound
        obtain ⟨name, rfl⟩ := x.lawful.form.constant_of_table hread htable
        have hnull : leaf? (x.path ++ [name]) (overlayAll base layers) = some .null := by
          refine leaf?_eq_some_iff.2 ⟨?_, rfl⟩
          rw [at?_append, hat]
          simp [field?, KeyMap.findEntry]
        rw [hleaf, Option.bind_eq_some_iff] at hnull
        obtain ⟨source, hlast, hnull⟩ := hnull
        exact (hsources source (mem_of_lastDeciding hlast)).leaf?_ne_null x name hnull

namespace Sources

theorem layers_eq_ok {s : Sources} (hfile : s.file = none) {layers : List Json}
    (h : s.layers = .ok layers) : ∃ files environment,
      (s.counted.flatMap s.pathsAt).mapM s.document? = some files ∧
      s.environment.toList.mapM (Environment.layer s.readers.ofVariable?) = .ok environment ∧
      layers = s.given.map Options.toJson ++ files ++ environment := by
  unfold Sources.layers at h
  obtain ⟨paths, hpaths, h⟩ := bind_eq_ok_iff.1 h
  obtain ⟨environment, henvironment, h⟩ := bind_eq_ok_iff.1 h
  rw [paths_eq hfile] at hpaths
  cases hpaths
  split at h
  · cases h
  · rename_i files hfiles
    cases h
    exact ⟨files, environment, hfiles, henvironment, rfl⟩

theorem load_eq_ok {s : Sources} {o : Options} (h : s.load = .ok o) :
    ∃ layers, s.layers = .ok layers ∧
      Options.ofJson? (overlayAll (Options.toJson {}) layers) = some o := by
  unfold load at h
  obtain ⟨layers, hlayers, h⟩ := bind_eq_ok_iff.1 h
  split at h
  · cases h
  · rename_i o' ho
    obtain ⟨-, -, h⟩ := bind_eq_ok_iff.1 h
    cases h
    exact ⟨layers, hlayers, ho⟩

/-- Options that load follow, in every setting, the last source that decides about it:
of the built-in options, those given, the files of the search up to the first plain one,
and the environment, in this order. No other file has any influence, and the settings
are all there is of the options. -/
theorem load_layered {s : Sources} (readers : s.readers.Lawful)
    (hfile : s.file = none) {o : Options} (h : s.load = .ok o) :
    (∃ files environment, (s.counted.flatMap s.pathsAt).mapM s.document? = some files ∧
      s.environment.toList.mapM (Environment.layer s.readers.ofVariable?) = .ok environment ∧
      ∀ x : Setting, FollowsLast
        (Options.toJson {} :: (s.given.map Options.toJson ++ files ++ environment)) o x) ∧
    (∀ t : FileTree, places { s with directory := t } = s.places →
      (∀ c ∈ s.counted, ∀ path ∈ [s.variantOf c, plainOf c], s.directory.SameAt t path) →
      load { s with directory := t } = .ok o) ∧
    ∀ o' : Options, (∀ x : Setting, x.get o' = x.get o) → o' = o := by
  refine ⟨?_, fun t hplaces ht => (load_congr hfile hplaces ht).trans h,
    fun o' hget => Setting.eq_of_get_eq hget⟩
  obtain ⟨layers, hlayers, ho⟩ := load_eq_ok h
  obtain ⟨files, environment, hfiles, henvironment, rfl⟩ := layers_eq_ok hfile hlayers
  refine ⟨files, environment, hfiles, henvironment, followsLast_of_ofJson? (fun j hj => ?_) ho⟩
  simp only [List.mem_cons, List.mem_append, List.mem_map] at hj
  rcases hj with rfl | (⟨given, -, rfl⟩ | hj) | hj
  · exact .written {}
  · exact .written given
  · obtain ⟨path, -, hpath⟩ := exists_of_mem_mapM_some hfiles hj
    exact .tree (tree_document? readers hpath)
  · obtain ⟨e, -, he⟩ := exists_of_mem_mapM_ok henvironment hj
    exact .tree (Environment.tree_layer readers.tree_ofVariable he)

/-- A port is given, and no place is named. In the working folder there is only a variant for
production, with a port and a level; the plain file is the user's, with a host, and a further one
beside it has another port. The environment has a level. -/
def layered : Sources where
  given := [{ server := { port := 9000 } }]
  directory := .ofFiles (.ofList [
    ("synonyms.production.toml", "[server]\nport = 7000\n[logging]\nlevel = \"debug\"\n"),
    ("../home/synonyms/synonyms.toml", "[server]\nhost = \"owl\"\n"),
    ("../home/synonyms/config.toml", "[server]\nport = 1\n")])
  searched := []
  configFolder := some "/home"
  profile := .production
  environment := some (.ofList [("SYNONYMS_LOGGING__LEVEL", "warn")])

def layeredOptions : Options where
  server := { host := "owl", port := 7000 }
  logging := { level := .warn }

theorem load_layered_production : layered.load = .ok layeredOptions ∧
    layered.counted.flatMap layered.pathsAt =
      ["/work/synonyms.production.toml", "/home/synonyms/synonyms.toml"] ∧
    ∃ files environment, (layered.counted.flatMap layered.pathsAt).mapM layered.document? =
      some files ∧
      layered.environment.toList.mapM (Environment.layer Variable.ofText?) = .ok environment ∧
      FollowsLast (Options.toJson {} :: (layered.given.map Options.toJson ++ files ++ environment))
        layeredOptions .port := by
  have hload : layered.load = .ok layeredOptions := by decide +kernel
  obtain ⟨⟨files, environment, hfiles, henvironment, hfollows⟩, -⟩ :=
    load_layered Readers.lawful rfl hload
  exact ⟨hload, by decide +kernel, files, environment, hfiles, henvironment, hfollows .port⟩

/-- The value that the last source to set a setting has for it. -/
def lastSet? (s : Sources) (x : Setting) : Option x.Value :=
  match s.layers with
  | .error _ => none
  | .ok layers =>
    let setting := (Options.toJson {} :: layers).filter fun j => (leaf? x.path j).isSome
    (setting.getLast?.bind (leaf? x.path)).bind x.spec.form.read

def cutOff : Sources where
  given := [{ server := { port := 9000 } }]
  directory := .ofFiles (.ofList [
    ("synonyms.production.toml", "server = 5\n"),
    ("synonyms.toml", "[server]\nhost = \"h\"\n")])
  profile := .production

/-- The port that was given is lost with the table it was in. -/
theorem set_port_lost : ¬ ∀ (s : Sources) (o : Options), s.readers.Lawful → s.file = none →
    s.load = .ok o → ∀ (x : Setting) (b : x.Value), x.get o = some b → s.lastSet? x = some b := by
  intro h
  have hload : cutOff.load = .ok { server := { host := "h" } } := by decide +kernel
  have hport := h cutOff _ Readers.lawful rfl hload .port 8080 rfl
  have hset : (show Option UInt16 from cutOff.lastSet? .port) = some 9000 := by decide +kernel
  have hsame : (9000 : UInt16) = 8080 := Option.some.inj (hset.symm.trans hport)
  revert hsame
  decide

end Sources

end Startup
end SynonymLookup
