import SynonymLookup.Proofs.Lookup.Answering

/-! Failures in a search over several configurations. Each configuration is searched from the
state that the one before it leaves, and ends with results or an error. A badly built query
ends the whole search with the first such error; every other failure costs the results of its
own configuration and no more. -/

namespace SynonymLookup
namespace Lookup

open Service

abbrev Outcome := Except LookupError (List SynonymResult)

def defect? : Outcome → Option LookupError
  | .ok _ => none
  | .error e => if e.isQueryDefect then some e else none

def part : Outcome → List SynonymResult
  | .ok found => found
  | .error _ => []

/-- The first defect if there is one, and the results in order if there is none. -/
def settled (outcomes : List Outcome) : Outcome :=
  match outcomes.findSome? defect? with
  | some e => .error e
  | none => .ok (outcomes.flatMap part)

/-- Searches all configurations, each from the state that the one before it leaves. -/
def inTurn (condition : Condition) : List Configuration → Service → List Outcome × Service
  | [], s => ([], s)
  | c :: rest, s =>
    let own := (search c condition).on s
    let later := inTurn condition rest own.2
    (own.1 :: later.1, later.2)

/-- How the search of a configuration ends when it is searched alone. -/
def outcome (s : Service) (condition : Condition) (c : Configuration) : Outcome :=
  ((search c condition).on s).1

def beside (s : Service) (condition : Condition) (before after : List Configuration) :
    Except LookupError (List SynonymResult × List SynonymResult) := do
  let first ← settled (before.map (outcome s condition))
  return (first, ← settled (after.map (outcome s condition)))

/-- A search is for a known type, and it goes through these configurations. -/
structure Loads (s : Service) (entityType : String) (bundle : Option String)
    (list : List Configuration) : Prop where
  known : (s.schema.entityType? entityType).isSome
  loaded : ((loadForEach entityType (covered s entityType bundle)).on s).1 = .ok list

def loadedState (s : Service) (entityType : String) (bundle : Option String) : Service :=
  ((loadForEach entityType (covered s entityType bundle)).on s).2

section Settled

variable {before middle after outcomes : List Outcome}

theorem settled_of_defect {e : LookupError} (h : outcomes.findSome? defect? = some e) :
    settled outcomes = .error e := by simp only [settled, h]

theorem settled_of_none (h : ∀ o ∈ outcomes, defect? o = none) :
    settled outcomes = .ok (outcomes.flatMap part) := by
  simp only [settled, List.findSome?_eq_none_iff.2 h]

theorem settled_append (before after : List Outcome) : settled (before ++ after) = (do
    let first ← settled before
    return first ++ (← settled after)) := by
  cases hbefore : before.findSome? defect? with
  | some e =>
    have hall : (before ++ after).findSome? defect? = some e := by
      simp [List.findSome?_append, hbefore]
    simp only [settled_of_defect hall, settled_of_defect hbefore]
    rfl
  | none =>
    cases hafter : after.findSome? defect? with
    | some e =>
      have hall : (before ++ after).findSome? defect? = some e := by
        simp [List.findSome?_append, hbefore, hafter]
      simp only [settled_of_defect hall, settled_of_defect hafter,
        settled_of_none (List.findSome?_eq_none_iff.1 hbefore)]
      rfl
    | none =>
      have hall : (before ++ after).findSome? defect? = none := by
        simp [List.findSome?_append, hbefore, hafter]
      simp only [settled_of_none (List.findSome?_eq_none_iff.1 hbefore),
        settled_of_none (List.findSome?_eq_none_iff.1 hafter),
        settled_of_none (List.findSome?_eq_none_iff.1 hall), List.flatMap_append]
      rfl

/-- Outcomes without a defect add their results in their place, and leave the others as they are. -/
theorem settled_around (h : ∀ o ∈ middle, defect? o = none) :
    settled (before ++ middle ++ after) = (do
      let first ← settled before
      return first ++ middle.flatMap part ++ (← settled after)) := by
  simp only [settled_append, settled_of_none h]
  cases settled before <;> cases settled after <;> rfl

theorem joined_settled (outcomes : List Outcome) :
    joined (outcomes.map fun o => settled [o]) = settled outcomes := by
  induction outcomes with
  | nil => rfl
  | cons o rest ih =>
    have hsplit : settled (o :: rest) = _ := settled_append [o] rest
    simp only [List.map_cons, joined, ih, hsplit]

end Settled

variable {s u : Service} {entityType : String} {bundle : Option String}
  {condition : Condition} {c : Configuration} {list before middle after : List Configuration}

theorem findIn_settled (c : Configuration) (condition : Condition) (s : Service) :
    (findIn c condition).on s =
      (settled [((search c condition).on s).1], ((search c condition).on s).2) := by
  rw [findIn, Step.on_tryCatch]
  rcases (search c condition).on s with ⟨e | found, u⟩
  · by_cases hdefect : e.isQueryDefect = true <;> simp [settled, defect?, part, hdefect]
  · simp [settled, defect?, part]

theorem observing_on (step : Action (List SynonymResult)) (s : Service) :
    (findInEach.observing step).on s = (.ok (step.on s).1, (step.on s).2) := by
  rw [findInEach.observing, Step.on_tryCatch, Step.on_bind]
  rcases step.on s with ⟨e | found, u⟩ <;> rfl

/-- Whatever the others end with, every configuration is searched. -/
theorem findInEach_inTurn (condition : Condition) (list : List Configuration) (s : Service) :
    (findInEach condition list).on s =
      (.ok ((inTurn condition list s).1.map fun o => settled [o]),
        (inTurn condition list s).2) := by
  induction list generalizing s with
  | nil => rfl
  | cons c rest ih =>
    have hown := observing_on (findIn c condition) s
    simp only [findIn_settled] at hown
    simp only [findInEach, Step.on_bind_ok hown, Step.on_bind_ok (ih _), Step.on_pure, inTurn,
      List.map_cons]

theorem findSynonyms_inTurn (h : Loads s entityType bundle list) (condition : Condition) :
    (findSynonyms condition entityType bundle).on s =
      (settled (inTurn condition list (loadedState s entityType bundle)).1,
        (inTurn condition list (loadedState s entityType bundle)).2) := by
  obtain ⟨t, ht⟩ := Option.isSome_iff_exists.1 h.known
  simp only [findSynonyms_eq, Step.on_bind_ok (entityType_of_some ht),
    Step.on_bind_ok (Step.on_get s), Step.on_bind_ok (Step.on_eq_of_fst h.loaded),
    Step.on_bind_ok (findInEach_inTurn condition list _),
    Step.on_ofExcept, joined_settled, loadedState]

/-- A configuration without a provider ends its search with an error that is passed over. -/
theorem defect?_of_underivable {e : LookupError} (h : c.provider s.registry s.schema = .error e) :
    outcome s condition c = .error e ∧ defect? (outcome s condition c) = none := by
  have hend : outcome s condition c = .error e := by
    have hprovider : (Repository.provider c).on s = (.error e, s) := by
      simp only [Repository.provider_on, h]
    simp only [outcome, search, Step.on_bind_error hprovider]
  refine ⟨hend, ?_⟩
  simp [hend, defect?, Registry.isQueryDefect_create h]

theorem findIn_of_no_defect (h : defect? (outcome s condition c) = none) :
    ((findIn c condition).on s).1 = .ok (part (outcome s condition c)) := by
  rw [findIn_settled, ← outcome]
  simp [settled, h]

theorem part_outcome (h : defect? (outcome s condition c) = none) :
    part (outcome s condition c) = contribution s condition c := by
  rw [contribution, findIn_of_no_defect h]
  rfl

theorem flatMap_part_outcome (h : ∀ c ∈ list, defect? (outcome s condition c) = none) :
    (list.map (outcome s condition)).flatMap part = list.flatMap (contribution s condition) := by
  rw [List.flatMap_map]
  exact List.flatMap_congr fun c hc => part_outcome (h c hc)

section Steadily

variable (finds : Backend.FindsSteadily s.registry s.backend)
include finds

/-- Where providers do not hang on what was asked before, each search ends as it does alone. -/
theorem inTurn_eq_outcomes (hu : s.Alike u) (condition : Condition) (list : List Configuration) :
    (inTurn condition list u).1 = list.map (outcome s condition) := by
  induction list generalizing u with
  | nil => rfl
  | cons c rest ih =>
    have hsearch : Step.Steady s.Alike (search c condition) :=
      steady_search_of_finds finds condition c
    simp only [inTurn, List.map_cons, ih (hsearch.stays hu), hsearch.same .refl hu, outcome]

theorem inTurn_loadedState (condition : Condition) (entityType : String) (bundle : Option String)
    (list : List Configuration) :
    (inTurn condition list (loadedState s entityType bundle)).1 = list.map (outcome s condition) :=
  inTurn_eq_outcomes finds ((steady_loadForEach entityType _).stays .refl) condition list

theorem findSynonyms_outcomes (h : Loads s entityType bundle list) (condition : Condition) :
    ((findSynonyms condition entityType bundle).on s).1 =
      settled (list.map (outcome s condition)) := by
  simp only [findSynonyms_inTurn h, inTurn_loadedState finds]

theorem outcome_congr {s' : Service} (hbackend : s.backend.Asked s'.backend)
    (hprovider : c.provider s'.registry s'.schema = c.provider s.registry s.schema)
    (condition : Condition) : outcome s' condition c = outcome s condition c := by
  cases hp : c.provider s.registry s.schema with
  | error e =>
    rw [(defect?_of_underivable hp).1, (defect?_of_underivable (hprovider.trans hp)).1]
  | ok p =>
    have hown : (Repository.provider c).on s = (.ok p, s) := by rw [Repository.provider_on, hp]
    have hother : (Repository.provider c).on s' = (.ok p, s') := by
      rw [Repository.provider_on, hprovider, hp]
    have hfind : Step.Steady s.backend.Asked (p.find condition) := finds hp condition
    simp only [outcome, search, Step.on_bind_ok hown, Step.on_bind_ok hother,
      onBackend_on (Prod.eta ((p.find condition).on s.backend)).symm,
      onBackend_on (Prod.eta ((p.find condition).on s'.backend)).symm]
    exact hfind.same .refl hbackend

theorem findSynonyms_around (h : Loads s entityType bundle (before ++ middle ++ after))
    (hmiddle : ∀ c ∈ middle, defect? (outcome s condition c) = none) :
    ((findSynonyms condition entityType bundle).on s).1 = (beside s condition before after).map
      fun x => x.1 ++ middle.flatMap (contribution s condition) ++ x.2 := by
  have hoff : ∀ o ∈ middle.map (outcome s condition), defect? o = none := by simpa using hmiddle
  simp only [findSynonyms_outcomes finds h, List.map_append, settled_around hoff,
    flatMap_part_outcome hmiddle, beside]
  cases settled (before.map (outcome s condition)) <;>
    cases settled (after.map (outcome s condition)) <;> rfl

theorem findSynonyms_of_no_defect (h : Loads s entityType bundle list)
    (hlist : ∀ c ∈ list, defect? (outcome s condition c) = none) :
    ((findSynonyms condition entityType bundle).on s).1 =
      .ok (list.flatMap (contribution s condition)) := by
  have hoff : ∀ o ∈ list.map (outcome s condition), defect? o = none := by simpa using hlist
  simp only [findSynonyms_outcomes finds h, settled_of_none hoff, flatMap_part_outcome hlist]

end Steadily

/-- A search goes through every configuration of its list, whatever the others end with, and gives
the first defect or all results in order. A configuration without a provider ends without a defect.
Where the searches of providers do not hang on one another, each ends as it does alone; so if some
configurations are put in place of others, and none of these ends with a defect, the answer changes
in their part only: the rest of it, a defect of another configuration included, is the same. The
others end as before if they have the same providers and the data are the same. -/
theorem failures_stay_apart (h : Loads s entityType bundle list) (condition : Condition) :
    ((findSynonyms condition entityType bundle).on s =
      (settled (inTurn condition list (loadedState s entityType bundle)).1,
        (inTurn condition list (loadedState s entityType bundle)).2)) ∧
    (∀ c e, c.provider s.registry s.schema = .error e →
      outcome s condition c = .error e ∧ defect? (outcome s condition c) = none) ∧
    (Backend.FindsSteadily s.registry s.backend →
      (inTurn condition list (loadedState s entityType bundle)).1 = list.map (outcome s condition) ∧
      (∀ c, ((findIn c condition).on s).1 = settled [outcome s condition c]) ∧
      (∀ (s' : Service) (c : Configuration), s.backend.Asked s'.backend →
        c.provider s'.registry s'.schema = c.provider s.registry s.schema →
          outcome s' condition c = outcome s condition c) ∧
      ∀ (s' : Service) (before middle middle' after : List Configuration),
        list = before ++ middle ++ after → Loads s' entityType bundle (before ++ middle' ++ after) →
        Backend.FindsSteadily s'.registry s'.backend →
        (∀ c ∈ before ++ after, outcome s' condition c = outcome s condition c) →
        (∀ c ∈ middle, defect? (outcome s condition c) = none) →
        (∀ c ∈ middle', defect? (outcome s' condition c) = none) →
        ((findSynonyms condition entityType bundle).on s).1 =
            (beside s condition before after).map (fun x =>
              x.1 ++ middle.flatMap (contribution s condition) ++ x.2) ∧
          ((findSynonyms condition entityType bundle).on s').1 =
            (beside s condition before after).map (fun x =>
              x.1 ++ middle'.flatMap (contribution s' condition) ++ x.2)) := by
  refine ⟨findSynonyms_inTurn h condition, fun c e hp => defect?_of_underivable hp, fun finds => ?_⟩
  refine ⟨inTurn_loadedState finds condition entityType bundle list,
    fun c => by rw [findIn_settled, outcome],
    fun s' c hbackend hprovider => outcome_congr finds hbackend hprovider condition, ?_⟩
  rintro s' before middle middle' after rfl h' finds' hsame hmiddle hmiddle'
  have hbefore : before.map (outcome s' condition) = before.map (outcome s condition) :=
    List.map_congr_left fun c hc => hsame c (List.mem_append_left _ hc)
  have hafter : after.map (outcome s' condition) = after.map (outcome s condition) :=
    List.map_congr_left fun c hc => hsame c (List.mem_append_right _ hc)
  have hbeside : beside s' condition before after = beside s condition before after := by
    simp only [beside, hbefore, hafter]
  have hother := findSynonyms_around finds' h' hmiddle'
  rw [hbeside] at hother
  exact ⟨findSynonyms_around finds h hmiddle, hother⟩

/-- A base that derives a provider for each field of aliases, with a search of its own. -/
def probe (id : String) (find : ProviderDefinition → Condition →
    Step Backend (List SynonymResult)) : ProviderBase :=
  ProviderBase.ofFieldName id id "alias" fun _ definition configuration =>
    { definition, configuration, find := find definition }

def probes : List ProviderBase :=
  [probe "failing" fun _ _ => throw (.storage (.backend "connection reset")),
    probe "raw" fun d condition => do
      let _ ← Backend.execute { entityType := d.entityType, condition }
      return []]

theorem findsSteadily_probes (b : Backend) :
    Backend.FindsSteadily (Registry.builtin ++ probes) b := by
  intro plugin settings p hp condition
  obtain ⟨base, hbase, d, -, -, rfl⟩ := Registry.create_eq_ok hp
  rcases List.mem_append.1 hbase with hbase | hbase
  · exact Backend.steady_find_create hbase _ d settings condition
  · simp only [probes, List.mem_cons, List.not_mem_nil, or_false] at hbase
    rcases hbase with rfl | rfl
    · exact .throw _
    · exact (Backend.steady_execute _).bind fun _ => .pure _

def probed (base : String) : List Configuration :=
  [{ id := "article", plugin := "field:node.article.alias" },
    { id := "between", plugin := base ++ ":node.article.alias" },
    { id := "page", plugin := "field:node.page.alias" }]

def probeService (base : String) : Service :=
  { configuredNotices (probed base) with registry := Registry.builtin ++ probes }

theorem failures_stay_apart_probe :
    Loads (probeService "field") "node" none (probed "field") ∧
    Loads (probeService "failing") "node" none (probed "failing") ∧
    Loads (probeService "raw") "node" none (probed "raw") ∧
    (let rest := beside (probeService "field") (Condition.onSynonym .like (.string "%r%"))
      [{ id := "article", plugin := "field:node.article.alias" }]
      [{ id := "page", plugin := "field:node.page.alias" }]
    ((findSynonyms (Condition.onSynonym .like (.string "%r%")) "node" none).on
      (probeService "field")).1 = rest.map (fun x => x.1 ++ [⟨⟨"1"⟩, "Reynard"⟩] ++ x.2) ∧
    ((findSynonyms (Condition.onSynonym .like (.string "%r%")) "node" none).on
      (probeService "failing")).1 = rest.map (fun x => x.1 ++ [] ++ x.2)) ∧
    ((findSynonyms (Condition.onSynonym .like (.string "%r%")) "node" none).on
      (probeService "raw")).1 =
        .error (.storage (.unresolvedPlaceholder "***SYNONYM_COLUMN***")) := by
  have working : Loads (probeService "field") "node" none (probed "field") := ⟨rfl, rfl⟩
  have failing : Loads (probeService "failing") "node" none (probed "failing") := ⟨rfl, rfl⟩
  have raw : Loads (probeService "raw") "node" none (probed "raw") := ⟨rfl, rfl⟩
  refine ⟨working, failing, raw, ?_, ?_⟩
  · obtain ⟨-, -, hsteady⟩ :=
      failures_stay_apart working (Condition.onSynonym .like (.string "%r%"))
    obtain ⟨-, -, hcongr, hreplace⟩ := hsteady (findsSteadily_probes _)
    have hown : contribution (probeService "field") (Condition.onSynonym .like (.string "%r%"))
        ⟨"between", "field:node.article.alias", "", {}⟩ = [⟨⟨"1"⟩, "Reynard"⟩] := by decide +kernel
    have hlost : contribution (probeService "failing") (Condition.onSynonym .like (.string "%r%"))
        ⟨"between", "failing:node.article.alias", "", {}⟩ = [] := by decide +kernel
    obtain ⟨hwith, hwithout⟩ := hreplace (probeService "failing")
      [⟨"article", "field:node.article.alias", "", {}⟩]
        [⟨"between", "field:node.article.alias", "", {}⟩]
      [⟨"between", "failing:node.article.alias", "", {}⟩]
        [⟨"page", "field:node.page.alias", "", {}⟩]
      rfl failing (findsSteadily_probes _) (fun c _ => hcongr _ c .refl rfl)
      (by simp only [List.forall_mem_singleton]; decide +kernel)
      (by simp only [List.forall_mem_singleton]; decide +kernel)
    simp only [List.flatMap_singleton, hown] at hwith
    simp only [List.flatMap_singleton, hlost] at hwithout
    exact ⟨hwith, hwithout⟩
  · obtain ⟨hanswer, -, hsteady⟩ :=
      failures_stay_apart raw (Condition.onSynonym .like (.string "%r%"))
    rw [hanswer, (hsteady (findsSteadily_probes _)).1]
    decide +kernel

end Lookup
end SynonymLookup
