import SynonymLookup.Proofs.Autocomplete.Matching
import SynonymLookup.Proofs.Behavior

/-! Suggestions in their parts: the labels, the configurations searched after them, the matches
taken, the entities of these, and how they are shown. All parts can be read off the first state. -/

namespace SynonymLookup
namespace Autocomplete

open Service Repository

def selection (keyword : String) (a : AutocompleteSettings) : Selection where
  targetType := a.targetType
  bundles := a.targetBundles
  keyword := keyword
  mode := a.mode
  limit := a.size

/-- The configurations that are searched for matches beside a number of labels. -/
def searched (a : AutocompleteSettings) (labels : Nat) : Action (List Configuration) := do
  if labels < a.size then
    enabledConfigurations a.targetType (targetBundles a (← get).schema)
  else return []

def loadMatched (targetType : String) (found : List Match) : Action (KeyMap Entity) :=
  let ids := Lookup.distinct (found.map (·.entityId))
  if ids.isEmpty then pure .empty else ask fun b => b.loadAll targetType ids

/-- The ids that are not to be suggested again after the labels. -/
def suggestedFirst (a : AutocompleteSettings) (byLabel : List Referenceable) : List EntityId :=
  if a.onlyUnique then byLabel.map (·.id) else []

theorem suggest_eq (keyword : String) {a : AutocompleteSettings} (hsize : a.size ≠ 0) :
    suggest keyword a = do
      let byLabel ← ask fun b => b.select (selection keyword a)
      let configurations ← searched a byLabel.length
      let taken ← matchAll a keyword (a.size - byLabel.length) ⟨[], suggestedFirst a byLabel⟩
        configurations
      let entities ← loadMatched a.targetType taken.found
      return byLabel.map ofLabel ++ (← presented entities taken.found) := by
  rw [suggest, if_neg hsize]
  refine bind_congr fun byLabel => ?_
  have hload (found : List Match) (f : KeyMap Entity → Action (List Suggestion)) :
      (if (Lookup.distinct (found.map (·.entityId))).isEmpty then pure .empty >>= f
        else (ask fun b => b.loadAll a.targetType (Lookup.distinct (found.map (·.entityId)))) >>=
          f) =
      loadMatched a.targetType found >>= f := by
    rw [loadMatched]
    split <;> rfl
  simp only [hload]
  by_cases hroom : byLabel.length < a.size
  · simp only [searched, if_pos hroom, bind_assoc]
    rfl
  · simp only [searched, if_neg hroom]
    rfl

variable {s : Service}

section Steady

theorem steady_isEnabled (id entityType bundle : String) :
    Step.Steady s.Alike (Behaviors.isEnabled id entityType bundle) :=
  sameSettings_alike.isEnabled id entityType bundle

theorem steady_enabledConfigurations (targetType : String) (bundles : List String) :
    Step.Steady s.Alike (enabledConfigurations targetType bundles) := by
  induction bundles with
  | nil => exact .pure []
  | cons bundle rest ih =>
    have hrest (found : List Configuration) : Step.Steady s.Alike (do
        return found ++ (← enabledConfigurations targetType rest) : Action (List Configuration)) :=
      ih.bind fun _ => .pure _
    exact (steady_isEnabled _ targetType bundle).bind fun _ =>
      .ite ((steady_loadFor targetType bundle).bind hrest) ((Step.Steady.pure []).bind hrest)

theorem steady_searched (a : AutocompleteSettings) (labels : Nat) :
    Step.Steady s.Alike (searched a labels) :=
  .ite (.get (fun hu hu' => by rw [hu.schema, hu'.schema]) fun _ =>
    steady_enabledConfigurations a.targetType _) (.pure [])

theorem steady_select (q : Selection) : Step.Steady s.Alike (ask fun b => b.select q) :=
  steady_ask fun _ => rfl

theorem steady_loadMatched (targetType : String) (found : List Match) :
    Step.Steady s.Alike (loadMatched targetType found) := Lookup.steady_loadSome _ _

theorem steady_presented (entities : KeyMap Entity) (found : List Match) :
    Step.Steady s.Alike (presented entities found) := by
  induction found with
  | nil => exact .pure []
  | cons m rest ih =>
    refine .get (fun hu hu' => by rw [hu.registry, hu.schema, hu'.registry, hu'.schema]) fun _ => ?_
    split
    · exact (steady_present _ _ _ _).bind fun _ => ih.bind fun _ => .pure _
    · exact ih

theorem steady_suggest (registry : s.registry = Registry.builtin) (keyword : String)
    (a : AutocompleteSettings) : Step.Steady s.Alike (suggest keyword a) := by
  by_cases hsize : a.size = 0
  · rw [suggest, if_pos hsize]
    exact .pure []
  · rw [suggest_eq keyword hsize]
    exact (steady_select _).bind fun _ => (steady_searched a _).bind fun _ =>
      (steady_matchAll a keyword registry _ _ _).bind fun _ =>
        (steady_loadMatched _ _).bind fun _ =>
        (steady_presented _ _).bind fun _ => .pure _

end Steady

def configurationsOn (s : Service) (targetType : String) (bundles : List String) :
    List Configuration :=
  (bundles.filter (Behaviors.isOn s Behavior.autocomplete.id targetType)).flatMap
    (s.configurationsOf targetType)

theorem eq_of_enabledConfigurations {targetType : String} {bundles : List String}
    {list : List Configuration}
    (h : ((enabledConfigurations targetType bundles).on s).1 = .ok list) :
    list = configurationsOn s targetType bundles := by
  induction bundles generalizing list with
  | nil =>
    cases h
    rfl
  | cons bundle rest ih =>
    have hrest (found : List Configuration) : Step.Steady s.Alike (do
        return found ++ (← enabledConfigurations targetType rest) : Action (List Configuration)) :=
      (steady_enabledConfigurations targetType rest).bind fun _ => .pure _
    have hlater {found : List Configuration} (h : ((do
        return found ++ (← enabledConfigurations targetType rest) :
          Action (List Configuration)).on s).1 = .ok list) :
        list = found ++ configurationsOn s targetType rest := by
      obtain ⟨later, hlater, hlist⟩ :=
        (steady_enabledConfigurations targetType rest).exists_of_on_bind_fst
        .refl (fun _ => .pure _) h
      cases hlist
      rw [ih hlater]
    obtain ⟨status, hstatus, hnext⟩ := (steady_isEnabled _ targetType bundle).exists_of_on_bind_fst
      .refl (fun _ => .ite ((steady_loadFor targetType bundle).bind hrest)
        ((Step.Steady.pure []).bind hrest)) h
    have hon : Behaviors.isOn s Behavior.autocomplete.id targetType bundle = status :=
      (Behaviors.eq_of_isEnabled hstatus).symm
    cases status with
    | true =>
      obtain ⟨found, hfound, hlist⟩ :=
        (steady_loadFor targetType bundle).exists_of_on_bind_fst .refl
        hrest hnext
      have hown : s.configurationsOf targetType bundle = found := by
        rw [configurationsOf, hfound]
        rfl
      rw [hlater hlist, configurationsOn, configurationsOn, List.filter_cons_of_pos hon,
        List.flatMap_cons, hown]
    | false =>
      rw [hlater hnext, configurationsOn, configurationsOn,
        List.filter_cons_of_neg (by simp [hon]), List.nil_append]

theorem configurations_of_searched {a : AutocompleteSettings} {labels : Nat}
    {list : List Configuration} (h : ((searched a labels).on s).1 = .ok list)
    (hroom : labels < a.size) :
    list = configurationsOn s a.targetType (targetBundles a s.schema) := by
  rw [searched, if_pos hroom, Step.on_bind_ok (Step.on_get s)] at h
  exact eq_of_enabledConfigurations h

theorem of_select {q : Selection} {found : List Referenceable} (hlimit : q.limit ≠ 0)
    (h : ((ask fun b => b.select q).on s).1 = .ok found) :
    (s.schema.entityType? q.targetType).isSome ∧ found = (s.store.labelMatches q).take q.limit := by
  obtain ⟨-, hselect⟩ := Lookup.ask_eq_ok (Step.on_eq_of_fst h)
  obtain ⟨hknown, hfound⟩ := Backend.select_eq_ok hselect
  rw [if_neg hlimit] at hfound
  exact ⟨hknown, hfound⟩

section Answering

variable (answering : s.backend.outages = {})
include answering

theorem select_fst {q : Selection} (hlimit : q.limit ≠ 0)
    (hknown : (s.schema.entityType? q.targetType).isSome) :
    ((ask fun b => b.select q).on s).1 = .ok ((s.store.labelMatches q).take q.limit) := by
  obtain ⟨t, ht⟩ := Option.isSome_iff_exists.1 hknown
  replace ht : s.backend.store.schema.entityType? q.targetType = some t := ht
  have hallow : s.backend.outages.allow .selection = .ok () := by
    rw [answering]
    rfl
  have hselect : s.backend.select q = .ok ((s.store.labelMatches q).take q.limit) := by
    rw [Backend.select, hallow, Store.select, ht]
    simp only [Option.isNone_some, Bool.false_eq_true, if_false, if_neg hlimit]
    rfl
  rw [ask, Step.on_read, hselect]
  rfl

theorem exists_loadMatched (targetType : String) (found : List Match) :
    ∃ entities, ((loadMatched targetType found).on s).1 = .ok entities := by
  have hallow : s.backend.outages.allow .loadMultiple = .ok () := by
    rw [answering]
    rfl
  rw [loadMatched]
  by_cases hnone : (Lookup.distinct (found.map (·.entityId))).isEmpty = true
  · rw [if_pos hnone]
    exact ⟨_, rfl⟩
  · rw [if_neg hnone, ask, Step.on_read, Backend.loadAll, hallow]
    exact ⟨_, rfl⟩

end Answering

theorem get?_of_loadMatched (hidden : s.backend.outages.hidden = []) (built : s.store.Built)
    {targetType : String} {found : List Match} {entities : KeyMap Entity}
    (h : ((loadMatched targetType found).on s).1 = .ok entities) {m : Match} (hm : m ∈ found) :
    entities.get? m.entityId.text = s.store.load targetType m.entityId := by
  have hid : m.entityId ∈ Lookup.distinct (found.map (·.entityId)) :=
    (Lookup.mem_distinct _ _).2 (List.mem_map_of_mem hm)
  exact Lookup.get?_of_loadSome hidden built h hid

def ofSuggestion (x : Suggestion) : EntityId × Option String := (x.entityId, x.synonym)

def Match.pair (m : Match) : EntityId × Option String := (m.entityId, some m.synonym)

section Presented

variable {entities : KeyMap Entity} {m : Match} {found : List Match}

/-- The entity of a match is there, and its configuration has a provider. -/
def isShown (s : Service) (entities : KeyMap Entity) (m : Match) : Bool :=
  (entities.get? m.entityId.text).isSome && (m.configuration.provider s.registry s.schema).isOk

theorem exists_of_isShown (h : isShown s entities m = true) :
    ∃ e p, entities.get? m.entityId.text = some e ∧
      m.configuration.provider s.registry s.schema = .ok p := by
  obtain ⟨hentity, hprovider⟩ := Bool.and_eq_true_iff.1 h
  obtain ⟨e, he⟩ := Option.isSome_iff_exists.1 hentity
  cases hp : m.configuration.provider s.registry s.schema with
  | error _ =>
    rw [hp] at hprovider
    cases hprovider
  | ok p => exact ⟨e, p, he, rfl⟩

theorem presented_of_shown {e : Entity} {p : Provider} (he : entities.get? m.entityId.text = some e)
    (hp : m.configuration.provider s.registry s.schema = .ok p) (rest : List Match) :
    (presented entities (m :: rest)).on s = (do
      let wording ← Wording.present m.synonym e m.configuration Behavior.autocomplete.id
      return ⟨m.entityId, e.labelText, wording, some m.synonym⟩ :: (← presented entities rest) :
        Action (List Suggestion)).on s := by
  rw [presented, Step.on_bind_ok (Step.on_get s)]
  simp only [he, hp]

theorem presented_of_not_shown (h : isShown s entities m = false) (rest : List Match) :
    (presented entities (m :: rest)).on s = (presented entities rest).on s := by
  rw [presented, Step.on_bind_ok (Step.on_get s)]
  cases he : entities.get? m.entityId.text with
  | none => simp only
  | some e =>
    cases hp : m.configuration.provider s.registry s.schema with
    | error _ => simp only
    | ok p =>
      rw [isShown, he, hp] at h
      cases h

/-- A match that can be shown is worded without failing. -/
def Worded (s : Service) (entities : KeyMap Entity) (m : Match) : Prop :=
  ∀ e, entities.get? m.entityId.text = some e → isShown s entities m = true →
    ∃ wording, ((Wording.present m.synonym e m.configuration Behavior.autocomplete.id).on s).1 =
      .ok wording

/-- The suggestions of matches are those that can be shown, in order; all of them can be worded. -/
theorem of_presented {shown : List Suggestion}
    (h : ((presented entities found).on s).1 = .ok shown) :
    shown.map ofSuggestion = (found.filter (isShown s entities)).map Match.pair ∧
      (∀ x ∈ shown, ∃ e, entities.get? x.entityId.text = some e ∧ x.entityLabel = e.labelText) ∧
      ∀ m ∈ found, Worded s entities m := by
  induction found generalizing shown with
  | nil =>
    cases h
    exact ⟨rfl, fun _ hx => absurd hx List.not_mem_nil, fun _ hm => absurd hm List.not_mem_nil⟩
  | cons m rest ih =>
    by_cases hshown : isShown s entities m = true
    · obtain ⟨e, p, he, hp⟩ := exists_of_isShown hshown
      rw [presented_of_shown he hp] at h
      obtain ⟨wording, hwording, hrest⟩ := (steady_present _ _ _ _).exists_of_on_bind_fst .refl
        (fun _ => (steady_presented entities rest).bind fun _ => .pure _) h
      obtain ⟨later, hlater, hall⟩ := (steady_presented entities rest).exists_of_on_bind_fst .refl
        (fun _ => .pure _) hrest
      cases hall
      obtain ⟨hpairs, hlabels, hworded⟩ := ih hlater
      refine ⟨?_, fun x hx => ?_, fun m' hm' => ?_⟩
      · rw [List.filter_cons_of_pos hshown, List.map_cons, List.map_cons, hpairs]
        rfl
      · rcases List.mem_cons.1 hx with rfl | hx
        · exact ⟨e, he, rfl⟩
        · exact hlabels x hx
      · rcases List.mem_cons.1 hm' with rfl | hm'
        · intro e' he' _
          rw [he, Option.some.injEq] at he'
          subst he'
          exact ⟨wording, hwording⟩
        · exact hworded m' hm'
    · have hnot : isShown s entities m = false := by simpa using hshown
      rw [presented_of_not_shown hnot] at h
      obtain ⟨hpairs, hlabels, hworded⟩ := ih h
      refine ⟨by rw [List.filter_cons_of_neg hshown, hpairs], hlabels, fun m' hm' => ?_⟩
      rcases List.mem_cons.1 hm' with rfl | hm'
      · exact fun _ _ h => absurd h hshown
      · exact hworded m' hm'

theorem exists_presented (h : ∀ m ∈ found, Worded s entities m) :
    ∃ shown, ((presented entities found).on s).1 = .ok shown := by
  induction found with
  | nil => exact ⟨[], rfl⟩
  | cons m rest ih =>
    obtain ⟨later, hlater⟩ := ih fun m' hm' => h m' (List.mem_cons_of_mem _ hm')
    by_cases hshown : isShown s entities m = true
    · obtain ⟨e, p, he, hp⟩ := exists_of_isShown hshown
      obtain ⟨wording, hwording⟩ := h m List.mem_cons_self e he hshown
      have hrest : Step.Steady s.Alike (presented entities rest) := steady_presented entities rest
      refine ⟨⟨m.entityId, e.labelText, wording, some m.synonym⟩ :: later, ?_⟩
      rw [presented_of_shown he hp, (steady_present _ _ _ _).on_bind_fst .refl
        (fun _ => hrest.bind fun _ => .pure _) hwording,
          hrest.on_bind_fst .refl (fun _ => .pure _) hlater]
      rfl
    · rw [presented_of_not_shown (by simpa using hshown)]
      exact ⟨later, hlater⟩

end Presented

/-- Suggestions are made when all their parts can be had. -/
theorem suggest_eq_ok (registry : s.registry = Registry.builtin) (built : s.store.Built)
    {keyword : String} {a : AutocompleteSettings} (hsize : a.size ≠ 0)
    {suggestions : List Suggestion} :
    ((suggest keyword a).on s).1 = .ok suggestions ↔ ∃ byLabel configurations entities shown,
      ((ask fun b => b.select (selection keyword a)).on s).1 = .ok byLabel ∧
      ((searched a byLabel.length).on s).1 = .ok configurations ∧
      ((loadMatched a.targetType (matched s a keyword (a.size - byLabel.length)
        ⟨[], suggestedFirst a byLabel⟩ configurations).found).on s).1 = .ok entities ∧
      ((presented entities (matched s a keyword (a.size - byLabel.length)
        ⟨[], suggestedFirst a byLabel⟩ configurations).found).on s).1 = .ok shown ∧
      suggestions = byLabel.map ofLabel ++ shown := by
  -- the parts after each one are steady, so all are read off the first state
  have hshown (byLabel : List Referenceable) (entities : KeyMap Entity) (found : List Match) :
      Step.Steady s.Alike (do return byLabel.map ofLabel ++ (← presented entities found) :
        Action (List Suggestion)) := (steady_presented entities found).bind fun _ => .pure _
  have hloaded (byLabel : List Referenceable) (t : Taken) : Step.Steady s.Alike (do
      let entities ← loadMatched a.targetType t.found
      return byLabel.map ofLabel ++ (← presented entities t.found) : Action (List Suggestion)) :=
    (steady_loadMatched _ _).bind fun _ => hshown _ _ _
  have hmatched (byLabel : List Referenceable) (list : List Configuration) :=
    (steady_matchAll (s := s) a keyword registry (a.size - byLabel.length)
      ⟨[], suggestedFirst a byLabel⟩ list).bind (hloaded byLabel)
  have hfound (byLabel : List Referenceable) (list : List Configuration) :=
    (steady_matchAll (s := s) a keyword registry (a.size - byLabel.length)
      ⟨[], suggestedFirst a byLabel⟩ list).on_bind_fst .refl (hloaded byLabel)
        (matchAll_fst a keyword registry built _ _ list)
  rw [suggest_eq keyword hsize, (steady_select _).on_bind_eq_ok .refl fun byLabel =>
    (steady_searched a _).bind (hmatched byLabel)]
  simp only [exists_and_left]
  refine exists_congr fun byLabel => and_congr_right fun _ => ?_
  rw [(steady_searched a _).on_bind_eq_ok .refl (hmatched byLabel)]
  refine exists_congr fun list => and_congr_right fun _ => ?_
  rw [hfound, (steady_loadMatched _ _).on_bind_eq_ok .refl fun _ => hshown _ _ _]
  refine exists_congr fun entities => and_congr_right fun _ => ?_
  rw [(steady_presented _ _).on_bind_eq_ok .refl fun _ => .pure _]
  refine exists_congr fun shown => and_congr_right fun _ => ?_
  rw [Step.on_pure, Except.ok.injEq, eq_comm]

end Autocomplete
end SynonymLookup
