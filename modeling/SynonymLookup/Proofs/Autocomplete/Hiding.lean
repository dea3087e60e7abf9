import SynonymLookup.Proofs.Autocomplete.Unique

/-! Whether uniqueness loses entities. What was suggested before is left out twice: the
search leaves it out without regard to the case of letters, and what is found is compared
exactly. So the suggestions are the first ones of each entity unless a match is left out
for the id of another entity. -/

namespace SynonymLookup
namespace Autocomplete

open Service Repository

/-- No match is left out for another entity: if its id was seen in some case of letters before
its configuration is searched, then it was seen as it is. The matches of one configuration do
not stand in each other's way. -/
def Unhidden (found : Configuration → List Match) : List EntityId → List Configuration → Prop
  | _, [] => True
  | seen, c :: rest =>
    (∀ m ∈ found c, ∀ i ∈ seen, Text.lowercase m.entityId.text = Text.lowercase i.text →
      m.entityId ∈ seen) ∧
    Unhidden found (seen ++ (found c).map (·.entityId)) rest

namespace Unhidden

variable {found : Configuration → List Match} {seen seen' : List EntityId}
    {list : List Configuration}

theorem congr (hsame : ∀ i, i ∈ seen ↔ i ∈ seen') (h : Unhidden found seen list) :
    Unhidden found seen' list := by
  induction list generalizing seen seen' with
  | nil => trivial
  | cons c rest ih =>
    refine ⟨fun m hm i hi hlower => ?_, ih (fun i => ?_) h.2⟩
    · exact (hsame _).1 (h.1 m hm i ((hsame i).2 hi) hlower)
    · rw [List.mem_append, List.mem_append, hsame]

theorem of_seen (h : ∀ m ∈ list.flatMap found, m.entityId ∈ seen) : Unhidden found seen list := by
  induction list generalizing seen with
  | nil => trivial
  | cons c rest ih =>
    refine ⟨fun m hm _ _ _ => h m (List.mem_append_left _ hm), ih fun m hm => ?_⟩
    exact List.mem_append_left _ (h m (List.mem_append_right _ hm))

/-- Nothing is hidden if no two ids differ in case only. -/
theorem of_apart (ids : List EntityId)
    (apart : ∀ i ∈ ids, ∀ j ∈ ids, Text.lowercase i.text = Text.lowercase j.text → i = j)
    (hseen : ∀ i ∈ seen, i ∈ ids) (hmatches : ∀ m ∈ list.flatMap found, m.entityId ∈ ids) :
    Unhidden found seen list := by
  induction list generalizing seen with
  | nil => trivial
  | cons c rest ih =>
    have hown : ∀ m ∈ found c, m.entityId ∈ ids := fun m hm =>
      hmatches m (List.mem_append_left _ hm)
    refine ⟨fun m hm i hi hlower => ?_, ih (fun i hi => ?_) fun m hm =>
      hmatches m (List.mem_append_right _ hm)⟩
    · rwa [apart _ (hown m hm) i (hseen i hi) hlower]
    · rcases List.mem_append.1 hi with hi | hi
      · exact hseen i hi
      · obtain ⟨m, hm, rfl⟩ := List.mem_map.1 hi
        exact hown m hm

end Unhidden

variable {s s' : Service} {a : AutocompleteSettings} {keyword : String}

/-- What a search leaves out of the matches was suggested before, if nothing is hidden. -/
theorem mem_of_left_out {seen : List EntityId} {m : Match}
    (h : ∀ i ∈ seen, Text.lowercase m.entityId.text = Text.lowercase i.text → m.entityId ∈ seen)
    (hleft : letsThrough seen m.entityId = false) : m.entityId ∈ seen := by
  obtain ⟨-, i, hi, hlower⟩ := letsThrough_eq_false_iff.1 hleft
  exact h i hi hlower

theorem mem_of_letsThrough {seen : List EntityId} {id i : EntityId} (h : letsThrough seen id = true)
    (hi : i ∈ seen) (hlower : Text.lowercase id.text = Text.lowercase i.text) : id ∈ seen := by
  by_cases hempty : id.text = ""
  · have hother : i.text = "" := by
      rw [← Text.lowercase_eq_empty_iff, ← hlower, Text.lowercase_eq_empty_iff, hempty]
    have hsame : id = i := by
      cases id
      cases i
      exact congrArg EntityId.mk (hempty.trans hother.symm)
    exact hsame ▸ hi
  · have hleft : letsThrough seen id = false := letsThrough_eq_false_iff.2 ⟨hempty, i, hi, hlower⟩
    rw [hleft] at h
    cases h

theorem nextOf_of_room {room : Nat} {t : Taken} {c : Configuration}
    (hroom : ¬ room ≤ (t.add (nextOf s a keyword room t c)).found.length) :
    nextOf s a keyword room t c = firstsBy (·.entityId) t.suggested
      ((matchesOf s a keyword c).filter fun m => letsThrough t.suggested m.entityId) := by
  simp only [Taken.add, nextOf, List.length_append, List.length_take] at hroom
  rw [nextOf, List.take_of_length_le (by omega)]

section Matched

variable (hunique : a.onlyUnique = true)
include hunique

theorem matched_of_unhidden (room : Nat) (t : Taken) (list : List Configuration)
    (h : Unhidden (matchesOf s a keyword) t.suggested list) :
    (matched s a keyword room t list).found = t.found ++
      (firstsBy (·.entityId) t.suggested (list.flatMap (matchesOf s a keyword))).take
        (room - t.found.length) := by
  induction list generalizing t with
  | nil => simp [matched, firstsBy]
  | cons c rest ih =>
    by_cases hroom : room ≤ t.found.length
    · rw [matched_of_full hroom, Nat.sub_eq_zero_of_le hroom, List.take_zero, List.append_nil]
    have hfirsts : firstsBy (·.entityId) t.suggested ((matchesOf s a keyword c).filter fun m =>
        letsThrough t.suggested m.entityId) = firstsBy (·.entityId) t.suggested
          (matchesOf s a keyword c) :=
      firstsBy_filter fun m hm => mem_of_left_out (h.1 m hm)
    have hnext : (firstsBy (·.entityId) t.suggested (matchesOf s a keyword c)).take
        (room - t.found.length) = nextOf s a keyword room t c := by rw [nextOf, hfirsts]
    rw [matched_cons_unique hunique hroom, List.flatMap_cons, take_firstsBy_append, hnext,
      ← List.append_assoc, Nat.sub_sub, ← List.length_append]
    by_cases hfull : room ≤ (t.add (nextOf s a keyword room t c)).found.length
    · have hnone : room - (t.found ++ nextOf s a keyword room t c).length = 0 :=
        Nat.sub_eq_zero_of_le hfull
      rw [matched_of_full hfull, hnone, List.take_zero, List.append_nil]
      rfl
    · have hall := nextOf_of_room hfull
      rw [hfirsts] at hall
      have hlater : Unhidden (matchesOf s a keyword)
          (t.add (nextOf s a keyword room t c)).suggested rest := by
        refine h.2.congr fun i => ?_
        rw [Taken.add, hall]
        exact mem_append_map_firstsBy.symm
      rw [ih _ hlater]
      rfl

/-- If all matches are of entities suggested in the end, nothing is hidden. -/
theorem unhidden_of_matched (room : Nat) (t : Taken) (list : List Configuration)
    (h : ∀ m ∈ list.flatMap (matchesOf s a keyword),
      m.entityId ∈ (matched s a keyword room t list).suggested) :
    Unhidden (matchesOf s a keyword) t.suggested list := by
  induction list generalizing t with
  | nil => trivial
  | cons c rest ih =>
    by_cases hroom : room ≤ t.found.length
    · rw [matched_of_full hroom] at h
      exact .of_seen h
    have hown : ∀ m ∈ matchesOf s a keyword c,
        m.entityId ∈ (matched s a keyword room t (c :: rest)).suggested := fun m hm =>
      h m (List.mem_append_left _ hm)
    refine ⟨fun m hm i hi hlower => ?_, ?_⟩
    · obtain ⟨added, hadded, -, hthrough⟩ := exists_added hunique s keyword room t
        (c :: rest)
      have hmem := hown m hm
      rw [hadded] at hmem
      rcases List.mem_append.1 hmem with hmem | hmem
      · exact hmem
      · obtain ⟨m', hm', hid⟩ := List.mem_map.1 hmem
        exact mem_of_letsThrough (hid ▸ (hthrough m' hm').2.2) hi hlower
    · rw [matched_cons_unique hunique hroom] at h hown
      have hlater : Unhidden (matchesOf s a keyword)
          (t.add (nextOf s a keyword room t c)).suggested rest :=
        ih _ fun m hm => h m (List.mem_append_right _ hm)
      -- the ids of the matches not taken next were suggested before, or else there is no room left
      refine hlater.congr fun i => ⟨fun hi => ?_, fun hi => ?_⟩
      · refine (List.mem_append.1 hi).elim (List.mem_append_left _) fun hi => ?_
        obtain ⟨m, hm, rfl⟩ := List.mem_map.1 hi
        exact List.mem_append_right _ (List.mem_map_of_mem (of_mem_nextOf hm).1)
      · rcases List.mem_append.1 hi with hi | hi
        · exact List.mem_append_left _ hi
        obtain ⟨m, hm, rfl⟩ := List.mem_map.1 hi
        have hmem := hown m hm
        by_cases hfull : room ≤ (t.add (nextOf s a keyword room t c)).found.length
        · rwa [matched_of_full hfull] at hmem
        · obtain ⟨added, hadded, -, hthrough⟩ := exists_added hunique s keyword room
            (t.add (nextOf s a keyword room t c)) rest
          rw [hadded] at hmem
          rcases List.mem_append.1 hmem with hmem | hmem
          · exact hmem
          · obtain ⟨m', hm', hid⟩ := List.mem_map.1 hmem
            have hkept : m ∈ (matchesOf s a keyword c).filter fun m =>
                letsThrough t.suggested m.entityId :=
              List.mem_filter.2 ⟨hm, letsThrough_of_append (hid ▸ (hthrough m' hm').2.2)⟩
            rw [Taken.add, nextOf_of_room hfull]
            exact mem_append_map_firstsBy.2 (List.mem_append_right _ (List.mem_map_of_mem hkept))

theorem pairs_taken_of_unhidden (h : Unhidden (matchesOf s a keyword)
      ((labelReference s a keyword).map Prod.fst)
      (configurationsOn s a.targetType (targetBundles a s.schema))) :
    (taken s a keyword).found.map Match.pair =
      (firstsBy Prod.fst ((labelReference s a keyword).map Prod.fst)
        (synonymReference s a keyword)).take (a.size - (labelReference s a keyword).length) := by
  by_cases hroom : (labelReference s a keyword).length ≤ a.size
  · have hfirst : suggestedFirst a ((labels s a keyword).take a.size) =
        (labelReference s a keyword).map Prod.fst := by
      rw [suggestedFirst_of_unique hunique, List.take_of_length_le hroom]
    have htaken := matched_of_unhidden hunique (a.size - (labelReference s a keyword).length)
      ⟨[], (labelReference s a keyword).map Prod.fst⟩ _ h
    rw [taken, length_room, hfirst, htaken, ← map_allMatches, firstsBy_map, ← List.map_take]
    rfl
  · have hnone : a.size - (labelReference s a keyword).length = 0 := by omega
    rw [taken, length_room, hnone, matched_of_full (Nat.zero_le _), List.take_zero]
    rfl

theorem unhidden_of_pairs_taken (hroom : (labelReference s a keyword).length ≤ a.size)
    (h : (taken s a keyword).found.map Match.pair =
      firstsBy Prod.fst ((labelReference s a keyword).map Prod.fst)
        (synonymReference s a keyword)) :
    Unhidden (matchesOf s a keyword) ((labelReference s a keyword).map Prod.fst)
      (configurationsOn s a.targetType (targetBundles a s.schema)) := by
  let t : Taken := ⟨[], (labelReference s a keyword).map Prod.fst⟩
  have htaken : taken s a keyword =
      matched s a keyword (a.size - (labelReference s a keyword).length) t
      (configurationsOn s a.targetType (targetBundles a s.schema)) := by
    rw [taken, length_room, suggestedFirst_of_unique hunique, List.take_of_length_le hroom]
  obtain ⟨added, hadded, -⟩ := exists_added hunique s keyword
    (a.size - (labelReference s a keyword).length) t
    (configurationsOn s a.targetType (targetBundles a s.schema))
  have hpairs : added.map Match.pair =
      firstsBy Prod.fst ((labelReference s a keyword).map Prod.fst)
        (synonymReference s a keyword) := by
    rw [← h, htaken, hadded]
    rfl
  refine unhidden_of_matched hunique (a.size - (labelReference s a keyword).length) t _
    fun m hm => ?_
  have hmem : m.pair ∈ synonymReference s a keyword :=
    map_allMatches s a keyword ▸ List.mem_map_of_mem hm
  have hids : added.map (·.entityId) = (added.map Match.pair).map Prod.fst := by
    rw [List.map_map]
    rfl
  rw [hadded, Taken.add, hids, hpairs]
  exact mem_append_map_firstsBy.2 (List.mem_append_right _ (List.mem_map_of_mem hmem))

end Matched

theorem taken_all (hunique : a.onlyUnique = false)
    (hall : (reference s a keyword).length ≤ a.size) :
    (taken s a keyword).found = allMatches s a keyword := by
  rw [taken_any hunique, length_room, List.take_of_length_le]
  rw [reference, List.length_append, ← map_allMatches, List.length_map] at hall
  omega

theorem ne_zero_of_mem_taken {m : Match} (h : m ∈ (taken s a keyword).found) : a.size ≠ 0 := by
  intro hsize
  rw [taken, hsize, Nat.zero_sub, matched_of_full (Nat.zero_le _)] at h
  cases h

/-- The labels are of different entities, so it is among the synonyms that entities come again. -/
theorem firsts_reference (built : s.store.Built) (hbundles : a.targetBundles.Nodup) :
    ((reference s a keyword).eraseDupsBy fun x y => x.1 == y.1) =
      labelReference s a keyword ++ firstsBy Prod.fst ((labelReference s a keyword).map Prod.fst)
        (synonymReference s a keyword) := by
  have hlabels : firstsBy Prod.fst [] (labelReference s a keyword) = labelReference s a keyword :=
    firstsBy_of_nodup (nodup_labelReference built hbundles) fun _ _ => List.not_mem_nil
  rw [← firstsBy_nil_seen, reference, firstsBy_append, hlabels, List.nil_append]

/-- The target type is known, and the configurations for which autocomplete is on can be read. -/
def Readable (s : Service) (a : AutocompleteSettings) : Prop :=
  (s.schema.entityType? a.targetType).isSome ∧
    ∃ list, ((enabledConfigurations a.targetType (targetBundles a s.schema)).on s).1 = .ok list

section Answers

variable (registry : s.registry = Registry.builtin) (built : s.store.Built)
include registry built

theorem readable_of_suggest {suggestions : List Suggestion}
    (h : ((suggest keyword a).on s).1 = .ok suggestions)
    (hroom : (labelReference s a keyword).length < a.size) : Readable s a := by
  have hsize : a.size ≠ 0 := Nat.ne_zero_of_lt hroom
  obtain ⟨byLabel, list, -, -, hselect, hsearched, -⟩ := (suggest_eq_ok registry built hsize).1 h
  obtain ⟨hknown, hlabels⟩ := of_select (q := selection keyword a) hsize hselect
  have hlength : byLabel.length < a.size := by
    rw [← map_labels, List.length_map] at hroom
    rw [hlabels]
    exact Nat.lt_of_le_of_lt (List.length_take_le' _ _) hroom
  rw [searched, if_pos hlength, Step.on_bind_ok (Step.on_get s)] at hsearched
  exact ⟨hknown, list, hsearched⟩

theorem worded_of_suggest (hidden : s.backend.outages.hidden = []) {suggestions : List Suggestion}
    (h : ((suggest keyword a).on s).1 = .ok suggestions) (hsize : a.size ≠ 0) {m : Match}
    (hm : m ∈ (taken s a keyword).found) {entities : KeyMap Entity}
    (hget : entities.get? m.entityId.text = s.store.load a.targetType m.entityId) :
    Worded s entities m := by
  obtain ⟨entities', shown, hloaded, hpresented, -⟩ := exists_of_suggest registry built h hsize
  have hsame : entities'.get? m.entityId.text = entities.get? m.entityId.text := by
    rw [hget, get?_of_loadMatched hidden built hloaded hm]
  intro e he hshown
  rw [isShown, ← hsame] at hshown
  exact (of_presented hpresented).2.2 m hm e (hsame.trans he) hshown

variable (answering : s.backend.outages = {})
include answering

theorem exists_suggest (readable : Readable s a) (hsize : a.size ≠ 0)
    (hworded : ∀ m ∈ (taken s a keyword).found, ∀ entities : KeyMap Entity,
      entities.get? m.entityId.text = s.store.load a.targetType m.entityId → Worded s entities m) :
    ∃ suggestions, ((suggest keyword a).on s).1 = .ok suggestions := by
  have hselect := select_fst (q := selection keyword a) answering hsize readable.1
  replace hselect : ((ask fun b => b.select (selection keyword a)).on s).1 =
    .ok ((labels s a keyword).take a.size) := hselect
  have hsearched : ∃ list, ((searched a ((labels s a keyword).take a.size).length).on s).1 =
      .ok list := by
    by_cases hroom : ((labels s a keyword).take a.size).length < a.size
    · rw [searched, if_pos hroom, Step.on_bind_ok (Step.on_get s)]
      exact readable.2
    · rw [searched, if_neg hroom]
      exact ⟨[], rfl⟩
  obtain ⟨list, hsearched⟩ := hsearched
  obtain ⟨entities, hloaded⟩ := exists_loadMatched answering a.targetType (taken s a keyword).found
  have hidden : s.backend.outages.hidden = [] := by rw [answering]
  obtain ⟨shown, hpresented⟩ := exists_presented fun m hm =>
    hworded m hm entities (get?_of_loadMatched hidden built hloaded hm)
  rw [← matched_searched hsearched] at hloaded hpresented
  exact ⟨_, (suggest_eq_ok registry built hsize).2
    ⟨_, list, entities, shown, hselect, hsearched, hloaded, hpresented, rfl⟩⟩

/-- Where suggestions without uniqueness are made of all matches, they are made with
uniqueness as well. -/
theorem exists_suggest_unique (hunique : a.onlyUnique = false) {suggestions : List Suggestion}
    (h : ((suggest keyword a).on s).1 = .ok suggestions)
    (hall : (reference s a keyword).length ≤ a.size)
    (hread : (labelReference s a keyword).length < a.size ∨ Readable s a) (n : Nat) :
    ∃ unique, ((suggest keyword { a with size := n, onlyUnique := true }).on s).1 = .ok unique := by
  by_cases hsize : n = 0
  · subst hsize
    exact ⟨[], rfl⟩
  have hreadable : Readable s a := hread.elim (readable_of_suggest registry built h) id
  refine exists_suggest (a := { a with size := n, onlyUnique := true }) registry built
    answering hreadable
    hsize fun m hm entities hget => ?_
  have hmem : m ∈ allMatches s a keyword :=
    ((taken_new (a := { a with size := n, onlyUnique := true }) rfl s keyword).2 m hm).1
  rw [← taken_all hunique hall] at hmem
  have hidden : s.backend.outages.hidden = [] := by rw [answering]
  exact worded_of_suggest registry built hidden h (ne_zero_of_mem_taken hmem) hmem hget

/-- With uniqueness the labels are suggested and the synonyms of what is taken, if all
matches are of stored entities. -/
theorem pairs_of_unique (hunique : a.onlyUnique = true) {suggestions : List Suggestion}
    (h : ((suggest keyword a).on s).1 = .ok suggestions)
    (stored : ∀ m ∈ allMatches s a keyword, (s.store.load a.targetType m.entityId).isSome) :
    suggestions.map ofSuggestion =
      (labelReference s a keyword).take a.size ++ (taken s a keyword).found.map Match.pair := by
  have hnew := (taken_new hunique s keyword).2
  by_cases hsize : a.size = 0
  · have hfound : (taken s a keyword).found = [] := by
      rw [taken, hsize, Nat.zero_sub, matched_of_full (Nat.zero_le _)]
    rw [suggest, if_pos hsize] at h
    rw [← Except.ok.inj h, hfound, hsize]
    rfl
  · have hidden : s.backend.outages.hidden = [] := by rw [answering]
    have hkept : ((taken s a keyword).found.filter fun m =>
        (s.store.load a.targetType m.entityId).isSome) = (taken s a keyword).found :=
      List.filter_eq_self.2 fun m hm => stored m (hnew m hm).1
    rw [(pairs_of_suggest registry built hidden h hsize fun m hm => (hnew m hm).1).1, hkept]

/-- Where no bundle is a target twice, all matches are of stored entities, and the settings can be
read even if labels alone fill the size: suggestions with uniqueness are the first ones of each
entity among all suggestions, as many as are asked for, exactly if no match is hidden by the id of
another entity. They are the same before and after. -/
theorem suggest_unique_iff (hbundles : a.targetBundles.Nodup) (hunique : a.onlyUnique = false)
    {suggestions : List Suggestion} (h : (suggest keyword a).on s = (.ok suggestions, s'))
    (hall : (reference s a keyword).length ≤ a.size)
    (hread : (labelReference s a keyword).length < a.size ∨ Readable s a)
    (stored : ∀ x ∈ synonymReference s a keyword, (s.store.load a.targetType x.1).isSome) :
    (∀ n, ∃ unique,
      ((suggest keyword { a with size := n, onlyUnique := true }).on s).1 = .ok unique ∧
      ((suggest keyword { a with size := n, onlyUnique := true }).on s').1 = .ok unique ∧
      unique.map ofSuggestion =
        ((suggestions.map ofSuggestion).eraseDupsBy fun x y => x.1 == y.1).take n) ↔
    Unhidden (matchesOf s a keyword) ((labelReference s a keyword).map Prod.fst)
      (configurationsOn s a.targetType (targetBundles a s.schema)) := by
  have hsuggest : ((suggest keyword a).on s).1 = .ok suggestions := congrArg Prod.fst h
  have hidden : s.backend.outages.hidden = [] := by rw [answering]
  have hstored : ∀ m ∈ allMatches s a keyword, (s.store.load a.targetType m.entityId).isSome :=
    fun m hm => stored m.pair (map_allMatches s a keyword ▸ List.mem_map_of_mem hm)
  have hpairs : suggestions.map ofSuggestion = reference s a keyword := by
    rw [pairs_of_stored registry built hidden hunique hsuggest hstored, List.take_of_length_le hall]
  have hunion {n : Nat} {unique : List Suggestion}
      (hmade : ((suggest keyword { a with size := n, onlyUnique := true }).on s).1 = .ok unique) :
      unique.map ofSuggestion = (labelReference s a keyword).take n ++
        (taken s { a with size := n, onlyUnique := true } keyword).found.map Match.pair :=
    pairs_of_unique registry built answering rfl hmade hstored
  rw [hpairs, firsts_reference built hbundles]
  constructor
  · intro hfirsts
    -- with enough room all is suggested
    let firsts := labelReference s a keyword ++ firstsBy Prod.fst
      ((labelReference s a keyword).map Prod.fst) (synonymReference s a keyword)
    have hroom : (labelReference s a keyword).length ≤ firsts.length := by
      rw [List.length_append]
      exact Nat.le_add_right _ _
    obtain ⟨unique, hmade, -, hfirst⟩ := hfirsts firsts.length
    rw [hunion hmade, List.take_of_length_le hroom, List.take_length] at hfirst
    exact unhidden_of_pairs_taken (a := { a with size := firsts.length, onlyUnique := true })
      rfl hroom
      (List.append_cancel_left hfirst)
  · intro hunhidden n
    obtain ⟨unique, hmade⟩ :=
      exists_suggest_unique registry built answering hunique hsuggest hall hread n
    have hafter : s.Alike s' := by
      have hstays := (steady_suggest registry keyword a).stays Alike.refl
      rwa [h] at hstays
    have htaken : (taken s { a with size := n, onlyUnique := true } keyword).found.map Match.pair =
        (firstsBy Prod.fst ((labelReference s a keyword).map Prod.fst)
          (synonymReference s a keyword)).take (n - (labelReference s a keyword).length) :=
      pairs_taken_of_unhidden rfl hunhidden
    refine ⟨unique, hmade, ?_, ?_⟩
    · rw [(steady_suggest registry keyword _).same .refl hafter, hmade]
    · rw [hunion hmade, htaken, List.take_append]

end Answers

theorem suggest_unique_iff_fox :
    ((suggest "fox" { targetType := "node" }).on (foxService "1" "2")).1 =
      .ok [⟨⟨"1"⟩, "Fox", "Fox", none⟩, ⟨⟨"2"⟩, "Owl", "Foxy", some "Foxy"⟩,
        ⟨⟨"2"⟩, "Owl", "Firefox", some "Firefox"⟩] ∧
    ∀ n, ∃ unique, ((suggest "fox" { targetType := "node", size := n, onlyUnique := true }).on
        (foxService "1" "2")).1 = .ok unique ∧
      unique.map ofSuggestion = [(⟨"1"⟩, none), (⟨"2"⟩, some "Foxy")].take n := by
  obtain ⟨hsuggest, -⟩ := suggest_fox
  have hall : (reference (foxService "1" "2") { targetType := "node" } "fox").length ≤ 10 := by
    decide +kernel
  have hroom :
      (labelReference (foxService "1" "2") { targetType := "node" } "fox").length < 10 := by
    decide +kernel
  have stored : ∀ x ∈ synonymReference (foxService "1" "2") { targetType := "node" } "fox",
      ((foxService "1" "2").store.load "node" x.1).isSome := by decide +kernel
  have hunhidden : Unhidden (matchesOf (foxService "1" "2") { targetType := "node" } "fox")
      ((labelReference (foxService "1" "2") { targetType := "node" } "fox").map Prod.fst)
      (configurationsOn (foxService "1" "2") "node"
        (targetBundles { targetType := "node" } (foxService "1" "2").schema)) := by
    refine Unhidden.of_apart [⟨"1"⟩, ⟨"2"⟩] ?_ ?_ ?_
    · decide +kernel
    · decide +kernel
    · decide +kernel
  have hfirsts := (suggest_unique_iff (s := foxService "1" "2") (a := { targetType := "node" }) rfl
    (built_foxStore "1" "2") rfl List.nodup_nil rfl (Step.on_eq_of_fst hsuggest) hall (.inl hroom)
    stored).2 hunhidden
  refine ⟨hsuggest, fun n => ?_⟩
  obtain ⟨unique, hmade, -, hfirst⟩ := hfirsts n
  exact ⟨unique, hmade, hfirst⟩

/-- The owl is not suggested: its id is that of the fox but for the case of the letter. -/
theorem owl_hidden_by_fox :
    ((suggest "fox" { targetType := "node" }).on (foxService "a" "A")).1 =
      .ok [⟨⟨"a"⟩, "Fox", "Fox", none⟩, ⟨⟨"A"⟩, "Owl", "Foxy", some "Foxy"⟩,
        ⟨⟨"A"⟩, "Owl", "Firefox", some "Firefox"⟩] ∧
    (reference (foxService "a" "A") { targetType := "node" } "fox").length = 3 ∧
    ((suggest "fox" { targetType := "node", onlyUnique := true }).on (foxService "a" "A")).1 =
      .ok [⟨⟨"a"⟩, "Fox", "Fox", none⟩] := by
  refine ⟨?_, ?_, ?_⟩
  · decide +kernel
  · decide +kernel
  · decide +kernel

end Autocomplete
end SynonymLookup
