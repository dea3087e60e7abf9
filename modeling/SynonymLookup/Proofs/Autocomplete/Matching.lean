import SynonymLookup.Autocomplete
import SynonymLookup.Proofs.Firsts
import SynonymLookup.Proofs.Lookup.Contribution

/-! Matching synonyms, taken configuration by configuration until the room is filled: without
uniqueness all of them in order, with it the first of each entity that was not suggested before. -/

namespace SynonymLookup
namespace Autocomplete

open Service Repository

def Match.ofResult (c : Configuration) (r : SynonymResult) : Match := ⟨r.entityId, r.synonym, c⟩

def Taken.add (t : Taken) (more : List Match) : Taken :=
  ⟨t.found ++ more, t.suggested ++ more.map (·.entityId)⟩

section Take

variable {c : Configuration}

theorem take_zero (unique : Bool) (t : Taken) (results : List SynonymResult) :
    take unique c 0 t results = t := by cases results <;> rfl

theorem take_nil (unique : Bool) (room : Nat) (t : Taken) : take unique c room t [] = t := by
  cases room <;> rfl

theorem take_cons_of_mem {t : Taken} {r : SynonymResult} (h : r.entityId ∈ t.suggested)
    (unique : Bool) (room : Nat) (results : List SynonymResult) :
    take unique c (room + 1) t (r :: results) = take unique c (room + 1) t results := by
  rw [take, if_pos (by simpa using h)]

theorem take_cons_of_not_mem {t : Taken} {r : SynonymResult} (h : r.entityId ∉ t.suggested)
    (unique : Bool) (room : Nat) (results : List SynonymResult) :
    take unique c (room + 1) t (r :: results) =
      take unique c room ⟨t.found ++ [Match.ofResult c r],
        if unique then t.suggested ++ [r.entityId] else t.suggested⟩ results := by
  rw [take, if_neg (by simpa using h)]
  rfl

theorem take_any (room : Nat) (found : List Match) (results : List SynonymResult) :
    take false c room ⟨found, []⟩ results =
      ⟨found ++ ((results.map (Match.ofResult c)).take room), []⟩ := by
  induction results generalizing room found with
  | nil => simp [take_nil]
  | cons r rest ih =>
    cases room with
    | zero => simp [take_zero]
    | succ room =>
      have hstep := take_cons_of_not_mem (c := c) (t := ⟨found, []⟩) (r := r) List.not_mem_nil
        false room rest
      simp only [Bool.false_eq_true, if_false] at hstep
      rw [hstep, ih, List.map_cons, List.take_succ_cons, List.append_assoc, List.singleton_append]

theorem take_unique (room : Nat) (t : Taken) (results : List SynonymResult) :
    take true c room t results =
      t.add ((firstsBy (·.entityId) t.suggested (results.map (Match.ofResult c))).take room) := by
  induction results generalizing room t with
  | nil => simp [take_nil, firstsBy, Taken.add]
  | cons r rest ih =>
    cases room with
    | zero => simp [take_zero, Taken.add]
    | succ room =>
      rw [List.map_cons]
      -- a match is of the entity of its result
      by_cases hseen : (Match.ofResult c r).entityId ∈ t.suggested
      · rw [take_cons_of_mem hseen, ih, firstsBy_cons_of_mem hseen]
      · rw [take_cons_of_not_mem hseen, ih, firstsBy_cons_of_not_mem hseen, List.take_succ_cons]
        simp [Match.ofResult, Taken.add]

end Take

def synonymCondition (a : AutocompleteSettings) (keyword : String) : Condition :=
  Condition.onSynonym .like (.string (a.mode.pattern keyword))

theorem pattern_ne_empty (m : MatchMode) (keyword : String) : m.pattern keyword ≠ "" := by
  intro h
  have hchars := congrArg String.toList h
  cases m <;> simp [MatchMode.pattern] at hchars

theorem askable_synonymCondition (a : AutocompleteSettings) (keyword : String) :
    (synonymCondition a keyword).Askable := by
  have htext : (Json.string (a.mode.pattern keyword)).text?.isSome := by
    rw [Json.text?_string (pattern_ne_empty a.mode keyword)]
    rfl
  constructor
  · simp [synonymCondition, Condition.onSynonym, Condition.compare, Column.isPlaceholder]
  · simpa [synonymCondition, Condition.onSynonym, Condition.compare, Operator.Takes,
      Operator.takesList] using htext

/-- The part of a search that leaves out the entities suggested before lets an entity through. -/
def letsThrough (suggested : List EntityId) (id : EntityId) : Bool :=
  suggested.isEmpty ||
    Evaluation.accepts .notIn [id.toJson] (.array (suggested.map EntityId.toJson))

/-- What is left out was suggested before, in some case of letters. An empty id is
never left out. -/
theorem letsThrough_eq_false_iff {suggested : List EntityId} {id : EntityId} :
    letsThrough suggested id = false ↔
      id.text ≠ "" ∧ ∃ other ∈ suggested, Text.lowercase id.text = Text.lowercase other.text := by
  have htakes : Operator.notIn.Takes (.array (suggested.map EntityId.toJson)) :=
    ⟨fun _ => rfl, by simp⟩
  have haccepts : letsThrough suggested id = (suggested.isEmpty ||
      !Test.isIn.admitsAny (.array (suggested.map EntityId.toJson)) [id.toJson]) := by
    rw [letsThrough, Evaluation.accepts, Evaluation.evaluate_of_takes htakes]
    rfl
  by_cases hempty : id.text = ""
  · simp [haccepts, Test.admitsAny, EntityId.toJson, Json.text?, hempty]
  · have hid : id.toJson.text? = some id.text := Json.text?_string hempty
    have hequals (other : EntityId) : Evaluation.equalsText id.text other.toJson = true ↔
        Text.lowercase id.text = Text.lowercase other.text := by
      rw [EntityId.toJson, Evaluation.equalsText_string hempty, Text.sameIgnoringCase_iff]
    have hadmits : Test.isIn.admitsAny (.array (suggested.map EntityId.toJson)) [id.toJson] = true ↔
        ∃ other ∈ suggested, Text.lowercase id.text = Text.lowercase other.text := by
      simp [Test.admitsAny, Test.admits, hid, Json.items?, hequals]
    rw [haccepts, Bool.or_eq_false_iff, Bool.not_eq_false', hadmits]
    refine ⟨fun h => ⟨hempty, h.2⟩, fun h => ⟨?_, h.2⟩⟩
    obtain ⟨other, hother, -⟩ := h.2
    simpa using List.ne_nil_of_mem hother

theorem letsThrough_of_append {suggested more : List EntityId} {id : EntityId}
    (h : letsThrough (suggested ++ more) id = true) : letsThrough suggested id = true := by
  by_contra hleft
  obtain ⟨hid, other, hother, hsame⟩ := letsThrough_eq_false_iff.1 (Bool.not_eq_true _ ▸ hleft)
  have hlater : letsThrough (suggested ++ more) id = false :=
    letsThrough_eq_false_iff.2 ⟨hid, other, List.mem_append_left _ hother, hsame⟩
  rw [hlater] at h
  cases h

theorem condition_eq (a : AutocompleteSettings) (keyword : String) (suggested : List EntityId) :
    condition a keyword suggested =
      if suggested.isEmpty then .and [synonymCondition a keyword]
      else .and [synonymCondition a keyword,
        Condition.onEntityId .notIn (.array (suggested.map EntityId.toJson))] := rfl

theorem askable_condition (a : AutocompleteSettings) (keyword : String)
    (suggested : List EntityId) : (condition a keyword suggested).Askable := by
  have hc := askable_synonymCondition a keyword
  rw [condition_eq]
  by_cases hnone : suggested.isEmpty = true
  · rw [if_pos hnone]
    exact hc.and_singleton
  · rw [if_neg hnone]
    exact hc.and_notIn _

section Search

variable {s : Service} (a : AutocompleteSettings) (keyword : String)

def results (s : Service) (a : AutocompleteSettings) (keyword : String) (c : Configuration) :
    List SynonymResult :=
  Lookup.contribution s (synonymCondition a keyword) c

/-- What the search comes to, configuration by configuration. -/
def matched (s : Service) (a : AutocompleteSettings) (keyword : String) (room : Nat) :
    Taken → List Configuration → Taken
  | t, [] => t
  | t, c :: rest =>
    if room ≤ t.found.length then t
    else matched s a keyword room
      (take a.onlyUnique c (room - t.found.length) t
        ((results s a keyword c).filter fun r => letsThrough t.suggested r.entityId)) rest

variable (registry : s.registry = Registry.builtin)
include registry

theorem steady_matchAll (room : Nat) (t : Taken) (list : List Configuration) :
    Step.Steady s.Alike (matchAll a keyword room t list) := by
  induction list generalizing t with
  | nil => exact .pure t
  | cons c rest ih =>
    exact .ite (.pure t) ((Lookup.steady_findIn registry _ c).bind fun _ => ih _)

variable (built : s.store.Built)
include built

/-- A search that leaves out the entities suggested before finds the rest of what it would find. -/
theorem contribution_condition (suggested : List EntityId) (c : Configuration) :
    Lookup.contribution s (condition a keyword suggested) c =
      (results s a keyword c).filter fun r => letsThrough suggested r.entityId := by
  have hc := askable_synonymCondition a keyword
  rw [condition_eq, results]
  by_cases hnone : suggested.isEmpty = true
  · rw [if_pos hnone, Lookup.contribution_and_singleton registry built hc]
    simp [letsThrough, hnone]
  · rw [if_neg hnone, Lookup.contribution_and_notIn registry built hc]
    simp [letsThrough, hnone]

theorem matchAll_fst (room : Nat) (t : Taken) (list : List Configuration) :
    ((matchAll a keyword room t list).on s).1 = .ok (matched s a keyword room t list) := by
  induction list generalizing t with
  | nil => rfl
  | cons c rest ih =>
    rw [matched]
    by_cases hfull : room ≤ t.found.length
    · simp only [matchAll, if_pos hfull, Step.on_pure]
    · have hfound := Lookup.findIn_fst registry built (askable_condition a keyword t.suggested) c
      have hnext := (Lookup.steady_findIn registry (condition a keyword t.suggested) c).on_bind_fst
        .refl (fun r => steady_matchAll a keyword registry room
          (take a.onlyUnique c (room - t.found.length) t r) rest) hfound
      rw [contribution_condition a keyword registry built] at hnext
      simp only [matchAll, if_neg hfull]
      rw [hnext, ih]

end Search

def matchesOf (s : Service) (a : AutocompleteSettings) (keyword : String) (c : Configuration) :
    List Match :=
  (results s a keyword c).map (Match.ofResult c)

variable {s : Service} {a : AutocompleteSettings} {keyword : String}

theorem matched_of_full {room : Nat} {t : Taken} (hfull : room ≤ t.found.length)
    (list : List Configuration) : matched s a keyword room t list = t := by
  cases list with
  | nil => rfl
  | cons c rest => rw [matched, if_pos hfull]

theorem matched_any (hunique : a.onlyUnique = false) (room : Nat) (found : List Match)
    (list : List Configuration) : (matched s a keyword room ⟨found, []⟩ list).found =
      found ++ (list.flatMap (matchesOf s a keyword)).take (room - found.length) := by
  induction list generalizing found with
  | nil => simp [matched]
  | cons c rest ih =>
    rw [matched]
    by_cases hfull : room ≤ found.length
    · rw [if_pos hfull, Nat.sub_eq_zero_of_le hfull, List.take_zero, List.append_nil]
    · have hall : ((results s a keyword c).filter fun r => letsThrough [] r.entityId) =
          results s a keyword c := by simp [letsThrough]
      rw [if_neg hfull]
      dsimp only
      rw [hall, hunique, take_any, ih, List.flatMap_cons, List.take_append, List.append_assoc]
      refine congrArg _ (congrArg _ (congrArg (fun n => List.take n _) ?_))
      simp only [List.length_append, List.length_take, matchesOf, List.length_map]
      omega

/-- What is taken of a configuration's matches: the first of each entity that was not suggested
before, of those that the search does not leave out, as far as there is room. -/
def nextOf (s : Service) (a : AutocompleteSettings) (keyword : String) (room : Nat) (t : Taken)
    (c : Configuration) : List Match :=
  (firstsBy (·.entityId) t.suggested ((matchesOf s a keyword c).filter fun m =>
    letsThrough t.suggested m.entityId)).take (room - t.found.length)

theorem of_mem_nextOf {room : Nat} {t : Taken} {c : Configuration} {m : Match}
    (h : m ∈ nextOf s a keyword room t c) : m ∈ matchesOf s a keyword c ∧ m.entityId ∉ t.suggested ∧
      letsThrough t.suggested m.entityId = true := by
  obtain ⟨hkept, hnew⟩ := mem_of_mem_firstsBy (List.mem_of_mem_take h)
  obtain ⟨hmem, hthrough⟩ := List.mem_filter.1 hkept
  exact ⟨hmem, hnew, hthrough⟩

section Unique

variable (hunique : a.onlyUnique = true)
include hunique

theorem matched_cons_unique {room : Nat} {t : Taken} (hroom : ¬ room ≤ t.found.length)
    (c : Configuration) (rest : List Configuration) : matched s a keyword room t (c :: rest) =
      matched s a keyword room (t.add (nextOf s a keyword room t c)) rest := by
  have hkept : ((results s a keyword c).filter fun r => letsThrough t.suggested r.entityId).map
      (Match.ofResult c) =
        (matchesOf s a keyword c).filter fun m => letsThrough t.suggested m.entityId := by
    rw [matchesOf, List.filter_map]
    rfl
  have hstep := take_unique (c := c) (room - t.found.length) t
    ((results s a keyword c).filter fun r => letsThrough t.suggested r.entityId)
  rw [hkept] at hstep
  rw [matched, if_neg hroom, hunique, hstep, nextOf]

/-- With uniqueness a search adds matches of entities that were not suggested before, each once,
and none that it leaves out. -/
theorem exists_added (s : Service) (keyword : String) (room : Nat) (t : Taken)
    (list : List Configuration) : ∃ added : List Match,
    matched s a keyword room t list = t.add added ∧ (added.map (·.entityId)).Nodup ∧
      ∀ m ∈ added, m ∈ list.flatMap (matchesOf s a keyword) ∧ m.entityId ∉ t.suggested ∧
        letsThrough t.suggested m.entityId = true := by
  have hnone (t : Taken) : t = t.add [] := by simp [Taken.add]
  induction list generalizing t with
  | nil => exact ⟨[], hnone t, List.nodup_nil, fun _ hm => absurd hm List.not_mem_nil⟩
  | cons c rest ih =>
    by_cases hroom : room ≤ t.found.length
    · rw [matched_of_full hroom]
      exact ⟨[], hnone t, List.nodup_nil, fun _ hm => absurd hm List.not_mem_nil⟩
    · let next := nextOf s a keyword room t c
      obtain ⟨later, hmatched, hnodup, hlater⟩ := ih (t.add next)
      refine ⟨next ++ later, ?_, ?_, fun m hm => ?_⟩
      · rw [matched_cons_unique hunique hroom, hmatched]
        simp only [Taken.add, List.append_assoc, List.map_append, next]
      · have hnext : (next.map (·.entityId)).Nodup :=
          (nodup_firstsBy _).sublist ((List.take_sublist _ _).map _)
        rw [List.map_append, List.nodup_append]
        refine ⟨hnext, hnodup, fun i hi j hj hij => ?_⟩
        obtain ⟨m, hm, rfl⟩ := List.mem_map.1 hj
        exact (hlater m hm).2.1 (List.mem_append_right _ (hij ▸ hi))
      · rcases List.mem_append.1 hm with hm | hm
        · obtain ⟨hmem, hnew⟩ := of_mem_nextOf hm
          exact ⟨List.mem_append_left _ hmem, hnew⟩
        · obtain ⟨hmem, hnew, hthrough⟩ := hlater m hm
          exact ⟨List.mem_append_right _ hmem, fun h => hnew (List.mem_append_left _ h),
            letsThrough_of_append hthrough⟩

end Unique

end Autocomplete
end SynonymLookup
