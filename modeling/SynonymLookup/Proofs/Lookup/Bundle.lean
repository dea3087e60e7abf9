import SynonymLookup.Argument
import SynonymLookup.Proofs.Lookup.FanOut
import SynonymLookup.Proofs.Provider.Bundle

/-! Lookups within a bundle, path by path: by label, by synonym and for an argument they give ids of
stored entities of the bundle, whatever the condition and whatever fails on the way. -/

namespace SynonymLookup

theorem Backend.load_eq_ok {b : Backend} {entityType : String} {id : EntityId}
    {found : Option Entity}
    (h : b.load entityType id = .ok found) : b.store.load entityType id = found := by
  unfold load at h
  cases hallow : b.outages.allow .load with
  | error e =>
    rw [hallow] at h
    cases h
  | ok _ =>
    rw [hallow] at h
    exact Except.ok.inj h

namespace Service

/-- The second state comes about from the first by executing queries and caching lists. -/
inductive Reads (s : Service) : Service → Prop
  | refl : Reads s s
  | counted {s' : Service} : Reads s s' → Reads s s'.counted
  | remembered {s' : Service} (entityType bundle : String) : Reads s s' →
      Reads s (s'.remember entityType bundle)

/-- What keeps lookups to a bundle: the providers are the built-in ones, and configurations are of
the bundle that they are cached and read for. -/
structure Bounded (s : Service) : Prop where
  registry : s.registry = Registry.builtin
  built : s.store.Built
  cached : Repository.CachedControl s
  readsBack : s.schema.ReadsBack

theorem Reads.trans {s s' s₂ : Service} (h : Reads s s') (h' : Reads s' s₂) : Reads s s₂ := by
  induction h' with
  | refl => exact h
  | counted _ ih => exact .counted ih
  | remembered entityType bundle _ ih => exact .remembered entityType bundle ih

theorem Reads.bounded {s s' : Service} (h : Reads s s') (hs : s.Bounded) : s'.Bounded := by
  induction h with
  | refl => exact hs
  | counted _ ih => exact ⟨ih.registry, .executed ih.built, ih.cached.congr rfl, ih.readsBack⟩
  | remembered entityType bundle _ ih =>
    exact ⟨ih.registry, ih.built, ih.cached.remember entityType bundle, ih.readsBack⟩

theorem Reads.unchanged {s s' : Service} (h : Reads s s') :
    s'.schema = s.schema ∧ s'.store.entities = s.store.entities := by
  induction h with
  | refl => exact ⟨rfl, rfl⟩
  | counted _ ih => exact ih
  | remembered _ _ _ ih => exact ih

theorem Reads.covers_iff {s s' : Service} (h : Reads s s') {entityType : String}
    {bundles : List String} {id : EntityId} :
    s'.store.Covers entityType bundles id ↔ s.store.Covers entityType bundles id := by
  obtain ⟨hschema, hentities⟩ := h.unchanged
  unfold Store.Covers Store.load Store.entitiesOf
  rw [hentities, show s'.store.schema = s.store.schema from hschema]

end Service

namespace Lookup

open Service Repository

variable {s s' : Service} {entityType bundle : String} {condition : Condition}

theorem onBackend_reads {step : Step Backend (List SynonymResult)}
    (h : s.backend.FindsIn entityType bundle step) :
    Reads s ((onBackend step).on s).2 ∧ ∀ found, ((onBackend step).on s).1 = .ok found →
      ∀ x ∈ found, s.store.Covers entityType [bundle] x.entityId := by
  obtain ⟨hleft, hfound⟩ := h
  rw [onBackend_on (Prod.eta (step.on s.backend)).symm]
  refine ⟨?_, hfound⟩
  rcases hleft with hleft | hleft
  · rw [hleft]
    exact .refl
  · rw [hleft]
    exact .counted .refl

/-- What a configuration contributes keeps to the bundle that it controls. -/
theorem findIn_covers (h : s.Bounded) {c : Configuration}
    (hcontrols : c.controls entityType bundle = true) :
    Reads s ((findIn c condition).on s).2 ∧ ∀ found, ((findIn c condition).on s).1 = .ok found →
      ∀ x ∈ found, s.store.Covers entityType [bundle] x.entityId := by
  have hsearch : Reads s ((search c condition).on s).2 ∧
      ∀ found, ((search c condition).on s).1 = .ok found →
        ∀ x ∈ found, s.store.Covers entityType [bundle] x.entityId := by
    unfold search
    rw [Step.on_bind, provider_on]
    cases hp : c.provider s.registry s.schema with
    | error e => exact ⟨.refl, fun found hfound => by cases hfound⟩
    | ok p =>
      unfold Configuration.provider at hp
      rw [h.registry] at hp
      obtain ⟨q, hq, rfl, rfl⟩ := Configuration.controls_iff.1 hcontrols
      exact onBackend_reads
        (Registry.findsIn_of_create h.built h.readsBack hp hq condition)
  unfold findIn
  rw [Step.on_tryCatch]
  rcases hresult : (search c condition).on s with ⟨e | found, t⟩
  · rw [hresult] at hsearch
    dsimp only
    split
    · exact ⟨hsearch.1, fun found hfound => by cases hfound⟩
    · refine ⟨hsearch.1, fun found hfound x hx => ?_⟩
      cases hfound
      cases hx
  · rw [hresult] at hsearch
    exact hsearch

theorem findInEach_covers {l : List Configuration} (h : s.Bounded)
    (hcontrols : ∀ c ∈ l, c.controls entityType bundle = true)
    {outcomes : List (Except LookupError (List SynonymResult))}
    (heach : (findInEach condition l).on s = (.ok outcomes, s')) :
    Reads s s' ∧ ∀ found, .ok found ∈ outcomes →
      ∀ x ∈ found, s.store.Covers entityType [bundle] x.entityId := by
  induction l generalizing s outcomes with
  | nil =>
    cases heach
    exact ⟨.refl, fun found hfound => absurd hfound List.not_mem_nil⟩
  | cons c rest ih =>
    obtain ⟨hreads, hfound⟩ : Reads s ((findIn c condition).on s).2 ∧ _ :=
      findIn_covers h (hcontrols c List.mem_cons_self)
    have hobserved : (findInEach.observing (findIn c condition)).on s =
        (.ok ((findIn c condition).on s).1, ((findIn c condition).on s).2) := by
      unfold findInEach.observing
      rw [Step.on_tryCatch, Step.on_bind]
      rcases (findIn c condition).on s with ⟨_ | _, t⟩ <;> rfl
    unfold findInEach at heach
    rw [Step.on_bind_ok hobserved] at heach
    obtain ⟨later, t, hlater, hresult⟩ := Step.exists_of_on_bind heach
    cases hresult
    obtain ⟨hrest, hcovers⟩ := ih (hreads.bounded h)
      (fun c hc => hcontrols c (List.mem_cons_of_mem _ hc)) hlater
    refine ⟨hreads.trans hrest, fun found hmem x hx => ?_⟩
    rcases List.mem_cons.1 hmem with hmem | hmem
    · exact hfound found hmem.symm x hx
    · exact hreads.covers_iff.1 (hcovers found hmem x hx)

theorem exists_of_mem_joined {outcomes : List (Except LookupError (List SynonymResult))}
    {found : List SynonymResult} (h : joined outcomes = .ok found) {x : SynonymResult}
    (hx : x ∈ found) : ∃ l, .ok l ∈ outcomes ∧ x ∈ l := by
  induction outcomes generalizing found with
  | nil =>
    cases h
    cases hx
  | cons outcome rest ih =>
    cases outcome with
    | error e => cases h
    | ok first =>
      cases hrest : joined rest with
      | error e =>
        rw [joined, hrest] at h
        cases h
      | ok later =>
        rw [joined, hrest] at h
        cases h
        rcases List.mem_append.1 hx with hx | hx
        · exact ⟨first, List.mem_cons_self, hx⟩
        · obtain ⟨l, hl, hx⟩ := ih hrest hx
          exact ⟨l, List.mem_cons_of_mem _ hl, hx⟩

theorem entityType_of_some {t : EntityType} (ht : s.schema.entityType? entityType = some t) :
    (Service.entityType entityType).on s = (.ok t, s) := by
  rw [Service.entityType, Step.on_bind_ok (Step.on_get s), ht]
  rfl

theorem entityType_of_none (ht : s.schema.entityType? entityType = none) :
    (Service.entityType entityType).on s = (.error (.unknownEntityType entityType), s) := by
  rw [Service.entityType, Step.on_bind_ok (Step.on_get s), ht]
  rfl

theorem entityType_eq_ok {t : EntityType} (h : (Service.entityType entityType).on s = (.ok t, s')) :
    s' = s ∧ s.schema.entityType? entityType = some t := by
  unfold Service.entityType at h
  rw [Step.on_bind_ok (Step.on_get s)] at h
  cases ht : s.schema.entityType? entityType with
  | none =>
    rw [ht] at h
    cases h
  | some t' =>
    rw [ht] at h
    cases h
    exact ⟨rfl, rfl⟩

theorem loadFor_reads {list : List Configuration}
    (h : (loadFor entityType bundle).on s = (.ok list, s')) : Reads s s' := by
  rcases loadFor_eq_ok h with ⟨-, rfl⟩ | ⟨-, rfl⟩
  · exact .refl
  · exact .remembered entityType bundle .refl

theorem findSynonyms_covers (h : s.Bounded) {found : List SynonymResult}
    (hfind : (findSynonyms condition entityType (some bundle)).on s = (.ok found, s')) :
    Reads s s' ∧ ∀ x ∈ found, s.store.Covers entityType [bundle] x.entityId := by
  unfold findSynonyms at hfind
  obtain ⟨t, s₁, htype, hget⟩ := Step.exists_of_on_bind hfind
  obtain ⟨rfl, -⟩ := entityType_eq_ok htype
  rw [Step.on_bind_ok (Step.on_get s₁)] at hget
  obtain ⟨list, s₂, hload, hsearch⟩ := Step.exists_of_on_bind hget
  dsimp only at hload
  unfold loadForEach at hload
  obtain ⟨first, s₃, hfirst, hnone⟩ := Step.exists_of_on_bind hload
  cases hnone
  rw [List.append_nil] at hsearch
  have hreads := loadFor_reads hfirst
  have hcontrols := controls_of_loadFor h.cached hfirst
  obtain ⟨outcomes, s₄, heach, hjoined⟩ := Step.exists_of_on_bind hsearch
  -- what each configuration gives is covered at the state after loading them, so also before
  rw [Step.on_ofExcept] at hjoined
  obtain ⟨hrest, hcovers⟩ := findInEach_covers (hreads.bounded h) hcontrols heach
  cases hj : joined outcomes with
  | error e =>
    rw [hj] at hjoined
    cases hjoined
  | ok results =>
    rw [hj] at hjoined
    cases hjoined
    refine ⟨hreads.trans hrest, fun x hx => ?_⟩
    obtain ⟨l, hl, hx⟩ := exists_of_mem_joined hj hx
    exact hreads.covers_iff.1 (hcovers l hl x hx)

theorem testsBundle_labelCondition (t : EntityType) (label name : String) (operator : Operator)
    (value : Json) :
    Store.TestsBundle t operator value (labelCondition t label name (some (operator, value))) := by
  intro key hkey
  unfold labelCondition
  rw [hkey]
  exact ⟨_, rfl, by simp⟩

theorem labelled_covers (h : s.Bounded) {t : EntityType} {name : String} {operator : Operator}
    {value : Json} {bundles : List String} {ids : List EntityId}
    (ht : s.schema.entityType? entityType = some t)
    (hnames : Evaluation.Names operator value bundles)
    (hlabelled : (labelled t entityType name (some (operator, value))).on s = (.ok ids, s')) :
    Reads s s' ∧ ∀ id ∈ ids, s.store.Covers entityType bundles id := by
  unfold labelled at hlabelled
  cases hlabel : t.labelColumn with
  | none =>
    rw [hlabel] at hlabelled
    cases hlabelled
    exact ⟨.refl, fun id hid => absurd hid List.not_mem_nil⟩
  | some label =>
    rw [hlabel] at hlabelled
    obtain ⟨rows, s₁, hrows, hresult⟩ := Step.exists_of_on_bind hlabelled
    cases hresult
    let q : Query :=
      { entityType, condition := labelCondition t label name (some (operator, value)) }
    rcases Backend.execute_cases q s.backend with ⟨e, hexecute⟩ | hexecute
    · rw [onBackend_on hexecute] at hrows
      cases hrows
    · rw [onBackend_on hexecute] at hrows
      cases hanswer : s.backend.store.rows q with
      | error e =>
        rw [hanswer] at hrows
        cases hrows
      | ok found =>
        rw [hanswer] at hrows
        cases hrows
        refine ⟨.counted .refl, fun id hid => ?_⟩
        obtain ⟨row, hrow, rfl⟩ := List.mem_map.1 hid
        exact Store.covers_of_mem_rows (q := q) h.built ht hnames
          (testsBundle_labelCondition t label name operator value) hanswer row hrow

theorem byName_covers (h : s.Bounded) {name : String} {ids : List EntityId}
    (hname : (byName entityType name (some bundle)).on s = (.ok ids, s')) :
    ∀ id ∈ ids, s.store.Covers entityType [bundle] id := by
  unfold byName at hname
  obtain ⟨t, s₁, htype, hlookup⟩ := Step.exists_of_on_bind hname
  obtain ⟨rfl, ht⟩ := entityType_eq_ok htype
  obtain ⟨byLabel, s₂, hlabelled, hrest⟩ := Step.exists_of_on_bind hlookup
  obtain ⟨hreads, hlabels⟩ := labelled_covers h ht (Evaluation.names_equal bundle) hlabelled
  obtain ⟨found, s₃, hfind, hresult⟩ := Step.exists_of_on_bind hrest
  obtain ⟨-, hfound⟩ := findSynonyms_covers (hreads.bounded h) hfind
  cases hresult
  intro id hid
  rw [mem_distinct] at hid
  rcases List.mem_append.1 hid with hid | hid
  · exact hlabels id hid
  · obtain ⟨x, hx, rfl⟩ := List.mem_map.1 hid
    exact hreads.covers_iff.1 (hfound x hx)

end Lookup

namespace Argument

open Service Repository

variable {s s' : Service} {entityType : String}

theorem findInBundles_covers {condition : Condition} {bundles : List String}
    {found : List SynonymResult} (h : s.Bounded)
    (hfind : (findInBundles condition entityType bundles).on s = (.ok found, s')) :
    Reads s s' ∧ ∀ x ∈ found, s.store.Covers entityType bundles x.entityId := by
  induction bundles generalizing s found with
  | nil =>
    cases hfind
    exact ⟨.refl, fun x hx => absurd hx List.not_mem_nil⟩
  | cons bundle rest ih =>
    unfold findInBundles at hfind
    obtain ⟨first, s₁, hfirst, hnext⟩ := Step.exists_of_on_bind hfind
    obtain ⟨later, s₂, hlater, hresult⟩ := Step.exists_of_on_bind hnext
    cases hresult
    obtain ⟨hreads, hcovers⟩ := Lookup.findSynonyms_covers h hfirst
    obtain ⟨hrest, hcovered⟩ := ih (hreads.bounded h) hlater
    refine ⟨hreads.trans hrest, fun x hx => ?_⟩
    rcases List.mem_append.1 hx with hx | hx
    · exact (hcovers x hx).mono fun b hb => by simp_all
    · exact (hreads.covers_iff.1 (hcovered x hx)).mono fun b hb => List.mem_cons_of_mem _ hb

theorem firstAccessible_covers {mayAccess : Entity → Bool} {bundles : List String}
    {ids : List EntityId} {answer : Option EntityId} (h : s.store.Built)
    (hids : ∀ id ∈ ids, s.store.Covers entityType bundles id)
    (hfirst : (firstAccessible entityType mayAccess ids).on s = (.ok answer, s')) :
    s' = s ∧ ∀ id, answer = some id → s.store.Covers entityType bundles id := by
  induction ids with
  | nil =>
    cases hfirst
    exact ⟨rfl, fun id hid => by cases hid⟩
  | cons first rest ih =>
    have ih := ih fun id hid => hids id (List.mem_cons_of_mem _ hid)
    unfold firstAccessible at hfirst
    obtain ⟨loaded, s₁, hask, hnext⟩ := Step.exists_of_on_bind hfirst
    obtain ⟨rfl, hload⟩ := Lookup.ask_eq_ok hask
    cases loaded with
    | none => exact ih hnext
    | some e =>
      dsimp only at hnext
      split at hnext
      · cases hnext
        refine ⟨rfl, fun id hid => ?_⟩
        cases hid
        rw [(h.consistent.id_of_load (Backend.load_eq_ok hload)).2]
        exact hids first List.mem_cons_self
      · exact ih hnext

theorem resolve_covers (h : s.Bounded) {options : ArgumentOptions} {mayAccess : Entity → Bool}
    {argument : String} {id : EntityId} (hbundles : options.bundles ≠ [])
    (hresolve : (resolve entityType options mayAccess argument).on s = (.ok (some id), s')) :
    s.store.Covers entityType options.bundles id := by
  have hempty : options.bundles.isEmpty = false := by simpa using hbundles
  unfold resolve at hresolve
  simp only [hempty, Bool.false_eq_true, if_false] at hresolve
  obtain ⟨t, s₁, htype, hlookup⟩ := Step.exists_of_on_bind hresolve
  obtain ⟨rfl, ht⟩ := Lookup.entityType_eq_ok htype
  obtain ⟨byLabel, s₂, hlabelled, hseen⟩ := Step.exists_of_on_bind hlookup
  obtain ⟨hreads, hlabels⟩ :=
    Lookup.labelled_covers h ht (Evaluation.names_isIn options.bundles) hlabelled
  obtain ⟨answer, s₃, hfirst, hrest⟩ := Step.exists_of_on_bind hseen
  obtain ⟨rfl, hanswer⟩ := firstAccessible_covers (hreads.bounded h).built
    (fun id hid => hreads.covers_iff.2 (hlabels id hid)) hfirst
  -- synonyms are searched only where no labelled entity is accessible
  cases answer with
  | some labelled =>
    cases hrest
    exact hreads.covers_iff.1 (hanswer id rfl)
  | none =>
    obtain ⟨found, s₄, hfind, hlast⟩ := Step.exists_of_on_bind hrest
    obtain ⟨hmore, hfound⟩ := findInBundles_covers (hreads.bounded h) hfind
    have hids : ∀ id ∈ found.map (·.entityId), s₄.store.Covers entityType options.bundles id := by
      intro id hid
      obtain ⟨x, hx, rfl⟩ := List.mem_map.1 hid
      exact hmore.covers_iff.2 (hfound x hx)
    obtain ⟨-, hcovers⟩ := firstAccessible_covers ((hreads.trans hmore).bounded h).built hids hlast
    exact (hreads.trans hmore).covers_iff.1 (hcovers id rfl)

end Argument

namespace Lookup

open Service Repository

/-- Within a bundle, lookups by name, by synonym and for an argument give ids of stored entities of
the type, and where the type has a key for bundles beside its id key, of that bundle in any case of
letters: for every condition, and whatever is cached or out of service. -/
theorem lookups_keep_to_bundle {s : Service} (registry : s.registry = Registry.builtin)
    (built : s.store.Built) (used : Used s) (readsBack : s.schema.ReadsBack) (entityType : String) :
    (∀ name bundle ids, ((byName entityType name (some bundle)).on s).1 = .ok ids →
      ∀ id ∈ ids, s.store.Covers entityType [bundle] id) ∧
    (∀ condition bundle found,
      ((findSynonyms condition entityType (some bundle)).on s).1 = .ok found →
        ∀ x ∈ found, s.store.Covers entityType [bundle] x.entityId) ∧
    ∀ options mayAccess argument id, options.bundles ≠ [] →
      ((Argument.resolve entityType options mayAccess argument).on s).1 = .ok (some id) →
        s.store.Covers entityType options.bundles id := by
  have bounded : s.Bounded := ⟨registry, built, used.cachedControl, readsBack⟩
  exact ⟨fun _ _ _ h => byName_covers bounded (Prod.ext h rfl),
    fun _ _ _ h => (findSynonyms_covers bounded (Prod.ext h rfl)).2,
    fun _ _ _ _ hbundles h => Argument.resolve_covers bounded hbundles (Prod.ext h rfl)⟩

/-- An article and a node of another bundle, both with an alias; a user; and a badge, whose type
has the id for its bundle key. -/
def noticeStore (bundle : String) : Store :=
  let node : EntityType :=
    { id := "node", keys := { id := "nid", bundle := some "type", label := some "title" } }
  let user : EntityType := { id := "user", keys := { id := "uid", label := some "name" } }
  let badge : EntityType :=
    { id := "badge", keys := { bundle := some "id", label := some "title" } }
  let field : Field := { name := "alias", fieldType := "string" }
  let fox : Entity :=
    { entityType := "node", bundle := "article", id := ⟨"1"⟩, label := some "Fox" }
  let owl : Entity := { entityType := "node", bundle := bundle, id := ⟨"2"⟩, label := some "Owl" }
  let ann : Entity := { entityType := "user", bundle := "user", id := ⟨"3"⟩, label := some "Ann" }
  let prize : Entity :=
    { entityType := "badge", bundle := "medal", id := ⟨"gold"⟩, label := some "Prize" }
  ((((((((((({} : Store).mapSchema (·.insertEntityType node)).mapSchema
    (·.insertEntityType user)).mapSchema (·.insertEntityType badge)).mapSchema
    (·.insertBundle "node" ⟨"article", "Article"⟩)).mapSchema
    (·.insertBundle "node" ⟨bundle, "Other"⟩)).mapSchema
    (·.insertField "node" "article" field)).mapSchema
    (·.insertField "node" bundle field)).insertEntity
    (fox.withValues "alias" [.string "Reynard"])).insertEntity
    (owl.withValues "alias" [.string "Strix"])).insertEntity ann).insertEntity prize

def noticeService (bundle : String) : Service :=
  let article : Configuration := { id := "article", plugin := "field:node.article.alias" }
  let other : Configuration := { id := "other", plugin := "field:node." ++ bundle ++ ".alias" }
  { backend := { store := noticeStore bundle }
    blobs := (KeyMap.empty.insert article.key article.toJson).insert other.key other.toJson }

def configuredNotices (list : List Configuration) : Service where
  backend := { store := noticeStore "page" }
  blobs := list.foldl (fun blobs c => blobs.insert c.key c.toJson) .empty

theorem built_noticeService (bundle : String) : (noticeService bundle).store.Built :=
  .insertEntity _ (.insertEntity _ (.insertEntity _ (.insertEntity _ (.insertField _ _ _
    (.insertField _ _ _ (.insertBundle _ _ (.insertBundle _ _ (.insertEntityType _
      (.insertEntityType _ (.insertEntityType _ .empty))))))))))

theorem ids_noticeStore :
    (∀ {id t}, (noticeStore "page").schema.entityType? id = some t → '.' ∉ id.toList) ∧
    ∀ {entityType b}, b ∈ (noticeStore "page").schema.bundlesOf entityType → '.' ∉ b.id.toList := by
  have hentries : ∀ e ∈ (noticeStore "page").schema.entityTypes.entries, '.' ∉ e.1.toList ∧
      ∀ b ∈ (noticeStore "page").schema.bundlesOf e.1, '.' ∉ b.id.toList := by decide
  refine ⟨fun h => (hentries _ (KeyMap.get?_eq_some_iff.1 h)).1, fun {_ b} hb => ?_⟩
  obtain ⟨e, he, rfl⟩ := Schema.exists_of_mem_bundlesOf hb
  exact (hentries e he).2 b hb

theorem readsBack_noticeService : (noticeService "page").schema.ReadsBack :=
  Schema.readsBack_of_plain (built_noticeService "page") ids_noticeStore.1 ids_noticeStore.2

theorem lookups_keep_to_bundle_page :
    Used (noticeService "page") ∧
    ((byName "node" "owl" (some "PAGE")).on (noticeService "page")).1 = .ok [⟨"2"⟩] ∧
    (noticeService "page").store.Covers "node" ["PAGE"] ⟨"2"⟩ ∧
    ((findSynonyms (Condition.onSynonym .like (.string "r%")) "node" (some "article")).on
      (noticeService "page")).1 = .ok [⟨⟨"1"⟩, "Reynard"⟩] ∧
    (noticeService "page").store.Covers "node" ["article"] ⟨"1"⟩ ∧
    ((Argument.resolve "node" { bundles := ["article", "page"] } (fun _ => true) "owl").on
      (noticeService "page")).1 = .ok (some ⟨"2"⟩) ∧
    (noticeService "page").store.Covers "node" ["article", "page"] ⟨"2"⟩ := by
  have used : Used (noticeService "page") := .fresh rfl
  have hname : ((byName "node" "owl" (some "PAGE")).on (noticeService "page")).1 = .ok [⟨"2"⟩] := by
    decide +kernel
  have hfound : ((findSynonyms (Condition.onSynonym .like (.string "r%")) "node"
      (some "article")).on (noticeService "page")).1 = .ok [⟨⟨"1"⟩, "Reynard"⟩] := by decide +kernel
  have hresolved : ((Argument.resolve "node" { bundles := ["article", "page"] } (fun _ => true)
      "owl").on (noticeService "page")).1 = .ok (some ⟨"2"⟩) := by decide +kernel
  obtain ⟨hnames, hsynonyms, harguments⟩ := lookups_keep_to_bundle (s := noticeService "page") rfl
    (built_noticeService "page") used readsBack_noticeService "node"
  exact ⟨used, hname, hnames _ _ _ hname _ (List.mem_singleton_self _), hfound,
    hsynonyms _ _ _ hfound ⟨⟨"1"⟩, "Reynard"⟩ (List.mem_singleton_self _), hresolved,
    harguments _ _ _ _ (List.cons_ne_nil _ _) hresolved⟩

/-- The bundle asked for is not always that of the entity found: letter case does not count, users
have no key for bundles, an id is compared where it is the bundle key, and a point in a bundle's id
makes its plugin ids read as of another bundle. -/
theorem other_bundles_found :
    ((byName "node" "Fox" (some "ARTICLE")).on (noticeService "page.de")).1 = .ok [⟨"1"⟩] ∧
    ((noticeService "page.de").store.load "node" ⟨"1"⟩).map (·.bundle) = some "article" ∧
    ((byName "user" "Ann" (some "staff")).on (noticeService "page.de")).1 = .ok [⟨"3"⟩] ∧
    ((Argument.resolve "user" { bundles := ["staff"] } (fun _ => true) "Ann").on
      (noticeService "page.de")).1 = .ok (some ⟨"3"⟩) ∧
    ((noticeService "page.de").store.load "user" ⟨"3"⟩).map (·.bundle) = some "user" ∧
    ((byName "badge" "Prize" (some "gold")).on (noticeService "page.de")).1 = .ok [⟨"gold"⟩] ∧
    ((noticeService "page.de").store.load "badge" ⟨"gold"⟩).map (·.bundle) = some "medal" ∧
    ((findSynonyms (Condition.onSynonym .equal (.string "Strix")) "node" (some "page")).on
      (noticeService "page.de")).1 = .ok [⟨⟨"2"⟩, "Strix"⟩] ∧
    ((noticeService "page.de").store.load "node" ⟨"2"⟩).map (·.bundle) = some "page.de" := by
  refine ⟨?_, rfl, ?_, ?_, rfl, ?_, rfl, ?_, rfl⟩ <;> decide +kernel

end Lookup

end SynonymLookup
