import SynonymLookup.Proofs.Autocomplete.Unique

/-! Suggestions at two sizes. Both runs take the same labels and matches in the same
order, the one with more room only goes on for longer; so a smaller size gives the
beginning of what a larger one gives. -/

namespace SynonymLookup
namespace Autocomplete

open Service Repository

variable {s : Service} {a : AutocompleteSettings} {keyword : String}

section Taken

theorem found_matched_of_le (hunique : a.onlyUnique = true) {room room' : Nat}
    (hrooms : room ≤ room') {t : Taken} (hfound : t.found.length ≤ room)
    (list : List Configuration) :
    (matched s a keyword room t list).found =
      (matched s a keyword room' t list).found.take room := by
  induction list generalizing t with
  | nil => exact (List.take_of_length_le hfound).symm
  | cons c rest ih =>
    by_cases hfull : room ≤ t.found.length
    · obtain ⟨added, hadded, -⟩ := exists_added hunique s keyword room' t (c :: rest)
      rw [matched_of_full hfull, hadded, Taken.add, List.take_append_of_le_length hfull,
        List.take_of_length_le hfound]
    · have hfull' : ¬ room' ≤ t.found.length := fun h => hfull (Nat.le_trans hrooms h)
      let news := firstsBy (·.entityId) t.suggested ((matchesOf s a keyword c).filter fun m =>
        letsThrough t.suggested m.entityId)
      have hnext : nextOf s a keyword room t c = news.take (room - t.found.length) := rfl
      have hnext' : nextOf s a keyword room' t c = news.take (room' - t.found.length) := rfl
      rw [matched_cons_unique hunique hfull, matched_cons_unique hunique hfull', hnext, hnext']
      rcases Nat.le_total news.length (room - t.found.length) with hall | hmore
      · -- both take all that is new, and go on alike
        have hall' : news.length ≤ room' - t.found.length := by omega
        rw [List.take_of_length_le hall, List.take_of_length_le hall']
        exact ih (by simp only [Taken.add, List.length_append]; omega)
      · -- the smaller room is filled here
        obtain ⟨added, hadded, -⟩ := exists_added hunique s keyword room'
          (t.add (news.take (room' - t.found.length))) rest
        have hfilled : room ≤ (t.add (news.take (room - t.found.length))).found.length := by
          simp only [Taken.add, List.length_append, List.length_take_of_le hmore]
          omega
        have hlater : room - t.found.length ≤ (news.take (room' - t.found.length)).length := by
          rw [List.length_take]
          omega
        rw [matched_of_full hfilled, hadded]
        simp only [Taken.add]
        rw [List.append_assoc, List.take_append, List.take_of_length_le hfound,
          List.take_append_of_le_length hlater, List.take_take, Nat.min_eq_left (by omega)]

/-- The matches hang on the room that is left, not on the size itself. -/
theorem matched_size (n room : Nat) (t : Taken) (list : List Configuration) :
    matched s { a with size := n } keyword room t list = matched s a keyword room t list := by
  induction list generalizing t with
  | nil => rfl
  | cons c rest ih =>
    rw [matched, matched, ih]
    rfl

/-- Where labels fill the size, nothing is taken beside them. -/
theorem found_taken_of_full (s : Service) (keyword : String)
    (h : a.size ≤ (labels s a keyword).length) : (taken s a keyword).found = [] := by
  have hroom : a.size - ((labels s a keyword).take a.size).length = 0 := by
    rw [List.length_take_of_le h, Nat.sub_self]
  rw [taken, hroom, matched_of_full (Nat.zero_le _)]

/-- What is taken beside the labels at a smaller size is taken first at a larger one. -/
theorem found_taken_of_le {n : Nat} (hn : n ≤ a.size) :
    (taken s { a with size := n } keyword).found =
      (taken s a keyword).found.take (n - (labels s a keyword).length) := by
  by_cases hunique : a.onlyUnique = true
  · rcases Nat.le_total n (labels s a keyword).length with hfull | hroom
    · rw [found_taken_of_full (a := { a with size := n }) s keyword hfull,
        Nat.sub_eq_zero_of_le hfull, List.take_zero]
    · have hlabels : (labels s a keyword).take n = labels s a keyword :=
        List.take_of_length_le hroom
      have hlabels' : (labels s a keyword).take a.size = labels s a keyword :=
        List.take_of_length_le (Nat.le_trans hroom hn)
      have htaken : taken s { a with size := n } keyword =
          matched s a keyword (n - ((labels s a keyword).take n).length)
            ⟨[], suggestedFirst a ((labels s a keyword).take n)⟩
            (configurationsOn s a.targetType (targetBundles a s.schema)) :=
        matched_size n _ _ _
      rw [htaken, hlabels, taken, hlabels']
      exact found_matched_of_le hunique (Nat.sub_le_sub_right hn _) (Nat.zero_le _) _
  · have hany : a.onlyUnique = false := by simpa using hunique
    have htaken : (taken s { a with size := n } keyword).found =
        (allMatches s a keyword).take (n - ((labels s a keyword).take n).length) :=
      taken_any (a := { a with size := n }) hany
    rw [htaken, taken_any hany, List.take_take, List.length_take, List.length_take]
    congr 1
    omega

end Taken

section Presented

variable {entities entities' : KeyMap Entity}

theorem presented_congr {found : List Match}
    (h : ∀ m ∈ found, entities'.get? m.entityId.text = entities.get? m.entityId.text) :
    presented entities' found = presented entities found := by
  induction found with
  | nil => rfl
  | cons m rest ih =>
    rw [presented, presented, ih fun m' hm' => h m' (List.mem_cons_of_mem _ hm'),
      h m List.mem_cons_self]

theorem presented_append (found later : List Match) :
    presented entities (found ++ later) = do
      let shown ← presented entities found
      return shown ++ (← presented entities later) := by
  induction found with
  | nil => simp [presented]
  | cons m rest ih =>
    rw [List.cons_append, presented, presented, ih, bind_assoc]
    refine bind_congr fun u => ?_
    split
    · simp only [bind_assoc, pure_bind, List.cons_append]
    · rfl

theorem exists_of_presented_append {found later : List Match} {shown : List Suggestion}
    (h : ((presented entities (found ++ later)).on s).1 = .ok shown) : ∃ first more,
      ((presented entities found).on s).1 = .ok first ∧
      ((presented entities later).on s).1 = .ok more ∧
        shown = first ++ more := by
  rw [presented_append] at h
  obtain ⟨first, hfirst, hrest⟩ := (steady_presented entities found).exists_of_on_bind_fst .refl
    (fun _ => (steady_presented entities later).bind fun _ => .pure _) h
  obtain ⟨more, hmore, hshown⟩ := (steady_presented entities later).exists_of_on_bind_fst .refl
    (fun _ => .pure _) hrest
  cases hshown
  exact ⟨first, more, hfirst, hmore, rfl⟩

end Presented

/-- How many of the matches taken cannot be shown: their entities are not stored
under the target type. -/
def gone (s : Service) (a : AutocompleteSettings) (keyword : String) : Nat :=
  (taken s a keyword).found.countP fun m => (s.store.load a.targetType m.entityId).isNone

theorem mem_allMatches_of_taken {m : Match} (h : m ∈ (taken s a keyword).found) :
    m ∈ allMatches s a keyword := by
  by_cases hunique : a.onlyUnique = true
  · exact ((taken_new hunique s keyword).2 m h).1
  · rw [taken_any (by simpa using hunique)] at h
    exact List.mem_of_mem_take h

section Steps

variable {n : Nat} (hn : n ≤ a.size)

theorem select_size {found : List Referenceable} (hsize : a.size ≠ 0) (hzero : n ≠ 0)
    (h : ((ask fun b => b.select (selection keyword a)).on s).1 = .ok found) :
    ((ask fun b => b.select (selection keyword { a with size := n })).on s).1 =
      .ok ((labels s a keyword).take n) := by
  obtain ⟨hknown, -⟩ := of_select (q := selection keyword a) hsize h
  obtain ⟨t, ht⟩ := Option.isSome_iff_exists.1 hknown
  replace ht : s.backend.store.schema.entityType? a.targetType = some t := ht
  obtain ⟨-, hselect⟩ := Lookup.ask_eq_ok (Step.on_eq_of_fst h)
  rw [ask, Step.on_read]
  rw [Backend.select] at hselect ⊢
  cases hallow : s.backend.outages.allow .selection with
  | error e =>
    rw [hallow] at hselect
    cases hselect
  | ok _ =>
    have hstore : s.backend.store.select (selection keyword { a with size := n }) =
        .ok ((labels s a keyword).take n) := by
      simp only [Store.select, selection, ht, Option.isNone_some, Bool.false_eq_true, if_false]
      exact if_neg hzero
    exact congrArg (Except.mapError LookupError.storage) hstore

include hn in
theorem exists_searched_of_le {list : List Configuration}
    (h : ((searched a ((labels s a keyword).take a.size).length).on s).1 = .ok list) : ∃ list',
    ((searched { a with size := n } ((labels s a keyword).take n).length).on s).1 = .ok list' := by
  by_cases hroom : (labels s a keyword).length < n
  · have hroom' : (labels s a keyword).length < a.size := Nat.lt_of_lt_of_le hroom hn
    rw [List.take_of_length_le (Nat.le_of_lt hroom'), searched, if_pos hroom'] at h
    rw [List.take_of_length_le (Nat.le_of_lt hroom), searched, if_pos hroom]
    exact ⟨list, h⟩
  · have hfull : ¬ ((labels s a keyword).take n).length < n := by
      rw [List.length_take]
      omega
    rw [searched, if_neg hfull]
    exact ⟨[], rfl⟩

theorem exists_loadMatched_of_append {targetType : String} {found later : List Match}
    {entities : KeyMap Entity}
    (h : ((loadMatched targetType (found ++ later)).on s).1 = .ok entities) :
    ∃ entities', ((loadMatched targetType found).on s).1 = .ok entities' := by
  cases found with
  | nil => exact ⟨_, rfl⟩
  | cons m rest =>
    have hids (found : List Match) :
        (Lookup.distinct ((m :: found).map (·.entityId))).isEmpty = false := by
      rw [List.isEmpty_eq_false_iff_exists_mem]
      exact ⟨m.entityId, (Lookup.mem_distinct _ _).2 List.mem_cons_self⟩
    simp only [List.cons_append, loadMatched, hids, Bool.false_eq_true, if_false] at h ⊢
    obtain ⟨-, hload⟩ := Lookup.ask_eq_ok (Step.on_eq_of_fst h)
    rw [Backend.loadAll] at hload
    cases hallow : s.backend.outages.allow .loadMultiple with
    | error e =>
      rw [hallow] at hload
      cases hload
    | ok _ =>
      rw [ask, Step.on_read, Backend.loadAll, hallow]
      exact ⟨_, rfl⟩

end Steps

/-- Suggestions at a size, put together of those at a smaller one: the labels, the matches that are
taken at both and are presented first, and those that are taken at the larger size alone. -/
structure CutAt (s : Service) (a : AutocompleteSettings) (keyword : String) (n : Nat)
    (entities : KeyMap Entity) (suggestions first more : List Suggestion) : Prop where
  both : ((presented entities (taken s { a with size := n } keyword).found).on s).1 = .ok first
  larger : ((presented entities
    ((taken s a keyword).found.drop (n - (labels s a keyword).length))).on s).1 = .ok more
  eq_append : suggestions = ((labels s a keyword).take a.size).map ofLabel ++ (first ++ more)
  suggest : ((suggest keyword { a with size := n }).on s).1 =
    .ok (((labels s a keyword).take n).map ofLabel ++ first)

section Answers

variable (registry : s.registry = Registry.builtin) (built : s.store.Built)
include registry built

theorem length_of_suggest (hidden : s.backend.outages.hidden = []) {suggestions : List Suggestion}
    (h : ((suggest keyword a).on s).1 = .ok suggestions) (hsize : a.size ≠ 0) :
    suggestions.length + gone s a keyword =
      ((labels s a keyword).take a.size).length + (taken s a keyword).found.length := by
  have hpairs := (pairs_of_suggest registry built hidden h hsize fun m => mem_allMatches_of_taken).1
  have hlength := congrArg List.length hpairs
  have hfound := List.length_eq_countP_add_countP
    (fun m : Match => (s.store.load a.targetType m.entityId).isSome)
      (l := (taken s a keyword).found)
  simp only [← map_labels, List.length_append, List.length_map, List.length_take,
    ← List.countP_eq_length_filter] at hlength
  simp only [Bool.not_eq_true, Option.isSome_eq_false_iff] at hfound
  rw [gone, List.length_take]
  simp only [Bool.decide_eq_true] at hfound
  omega

variable (hidden : s.backend.outages.hidden = []) {n : Nat} (hn : n ≤ a.size)
include hidden hn

/-- At a smaller size suggestions are made as well: of the labels and matches that
are taken first. -/
theorem exists_cutAt (hzero : n ≠ 0) {suggestions : List Suggestion}
    (h : ((suggest keyword a).on s).1 = .ok suggestions) :
    ∃ entities first more, CutAt s a keyword n entities suggestions first more := by
  have hsize : a.size ≠ 0 := by omega
  obtain ⟨byLabel, list, entities, shown, hselect, hsearched, hloaded, hpresented, rfl⟩ :=
    (suggest_eq_ok registry built hsize).1 h
  obtain ⟨-, hlabels⟩ := of_select (q := selection keyword a) hsize hselect
  replace hlabels : byLabel = (labels s a keyword).take a.size := hlabels
  subst hlabels
  obtain ⟨list', hsearched'⟩ := exists_searched_of_le hn hsearched
  rw [matched_searched hsearched] at hloaded hpresented
  let found := (taken s { a with size := n } keyword).found
  have hfound : (taken s a keyword).found =
      found ++ (taken s a keyword).found.drop (n - (labels s a keyword).length) := by
    rw [show found = _ from found_taken_of_le hn, List.take_append_drop]
  rw [hfound] at hloaded hpresented
  obtain ⟨entities', hloaded'⟩ := exists_loadMatched_of_append hloaded
  obtain ⟨first, more, hfirst, hmore, rfl⟩ := exists_of_presented_append hpresented
  have hpresented' : ((presented entities' found).on s).1 = .ok first := by
    rw [← hfirst, presented_congr fun m hm => ?_]
    rw [get?_of_loadMatched hidden built hloaded' hm,
      get?_of_loadMatched hidden built hloaded (List.mem_append_left _ hm)]
  rw [show found = _ from (congrArg Taken.found (matched_searched hsearched')).symm]
    at hloaded' hpresented'
  exact ⟨entities, first, more, hfirst, hmore, rfl,
    (suggest_eq_ok (a := { a with size := n }) registry built hzero).2
      ⟨_, list', entities', first, select_size hsize hzero hselect, hsearched', hloaded',
        hpresented', rfl⟩⟩

/-- A smaller size gives the beginning of what a larger one gives: as many as it asks for, but for
the matches among them that cannot be shown. -/
theorem suggest_of_le {suggestions : List Suggestion}
    (h : ((suggest keyword a).on s).1 = .ok suggestions) :
    ((suggest keyword { a with size := n }).on s).1 =
      .ok (suggestions.take (n - gone s { a with size := n } keyword)) := by
  by_cases hzero : n = 0
  · subst hzero
    rw [Nat.zero_sub, List.take_zero]
    rfl
  obtain ⟨entities, first, more, hfirst, hmore, rfl, hsuggest⟩ :=
    exists_cutAt registry built hidden hn hzero h
  have hlength : (((labels s a keyword).take n).map ofLabel ++ first).length +
      gone s { a with size := n } keyword =
        ((labels s a keyword).take n).length +
        (taken s { a with size := n } keyword).found.length :=
    length_of_suggest (a := { a with size := n }) registry built hidden hsuggest hzero
  rw [List.length_append, List.length_map] at hlength
  rw [hsuggest]
  refine congrArg Except.ok ?_
  rcases Nat.le_total n (labels s a keyword).length with hfull | hroom
  · -- the labels fill the smaller size
    have hnone : (taken s { a with size := n } keyword).found = [] :=
      found_taken_of_full (a := { a with size := n }) s keyword hfull
    have hgone : gone s { a with size := n } keyword = 0 := by rw [gone, hnone, List.countP_nil]
    have hlong : n ≤ (((labels s a keyword).take a.size).map ofLabel).length := by
      rw [List.length_map, List.length_take]
      exact Nat.le_min.2 ⟨hn, hfull⟩
    rw [hnone] at hfirst
    cases hfirst
    rw [hgone, List.append_nil, Nat.sub_zero, List.take_append_of_le_length hlong, ← List.map_take,
      List.take_take, Nat.min_eq_left hn]
  · -- all labels are suggested at both sizes, and matches beside them
    rw [found_taken_of_le hn, List.take_of_length_le hroom, List.length_take] at hlength
    rw [List.take_of_length_le hroom, List.take_of_length_le (Nat.le_trans hroom hn),
      ← List.append_assoc]
    rcases Nat.le_total (taken s a keyword).found.length (n - (labels s a keyword).length)
      with hall | hcut
    · rw [List.drop_of_length_le hall] at hmore
      cases hmore
      rw [Nat.min_eq_right hall] at hlength
      rw [List.append_nil, List.take_of_length_le]
      rw [List.length_append, List.length_map]
      omega
    · rw [Nat.min_eq_left hcut] at hlength
      rw [List.take_left']
      rw [List.length_append, List.length_map]
      omega

/-- A smaller size gives the beginning of what a larger one gives. It gives as many as it asks for,
but for the matches taken whose entities are not stored under the target type. There are none of
these if plugin ids are read back as of the type they were derived for. -/
theorem suggestions_take {suggestions : List Suggestion}
    (h : ((suggest keyword a).on s).1 = .ok suggestions) :
    ((suggest keyword { a with size := n }).on s).1 =
      .ok (suggestions.take (n - gone s { a with size := n } keyword)) ∧
    (suggestions.take (n - gone s { a with size := n } keyword)).length ≤ n ∧
    (Used s → s.schema.TypesReadBack →
      ((suggest keyword { a with size := n }).on s).1 = .ok (suggestions.take n)) := by
  have hsuggest := suggest_of_le registry built hidden hn h
  refine ⟨hsuggest, ?_, fun used readsBack => ?_⟩
  · exact Nat.le_trans (List.length_take_le _ _) (Nat.sub_le _ _)
  · have hnone : gone s { a with size := n } keyword = 0 := by
      rw [gone, List.countP_eq_zero]
      intro m hm hgone
      have hstored := isSome_of_mem_allMatches (a := { a with size := n }) registry built
        used.cachedControl readsBack (mem_allMatches_of_taken hm)
      rw [Option.isNone_iff_eq_none] at hgone
      rw [hgone] at hstored
      cases hstored
    rw [hsuggest, hnone, Nat.sub_zero]

end Answers

theorem suggestions_take_fox : ∃ suggestions,
    ((suggest "fox" { targetType := "node" }).on (foxService "1" "2")).1 = .ok suggestions ∧
    suggestions.length = 3 ∧
    ((suggest "fox" { targetType := "node", size := 2 }).on (foxService "1" "2")).1 =
      .ok (suggestions.take 2) := by
  obtain ⟨hsuggest, -⟩ := suggest_fox
  have used : Used (foxService "1" "2") := .fresh rfl
  exact ⟨_, hsuggest, rfl,
    (suggestions_take (s := foxService "1" "2") (a := { targetType := "node" }) (n := 2) rfl
      (built_foxStore "1" "2") rfl (by decide) hsuggest).2.2 used typesReadBack_foxService⟩

/-- A second owl is found through the configuration whose plugin id is read as of articles. It has a
namesake among these, which is suggested in its place; the first owl has none. -/
def namesakeStore : Store :=
  let owl : Entity :=
    { entityType := "node.article", bundle := "node.article", id := ⟨"2"⟩, label := some "Owl" }
  let elk : Entity :=
    { entityType := "node", bundle := "article", id := ⟨"2"⟩, label := some "Elk" }
  (fileStore.insertEntity (owl.withValues "alias" [.string "Foxy"])).insertEntity elk

/-- The first match cannot be shown, so a size of one gives nothing; a size of two
gives the second. -/
theorem first_lost_at_smaller_size : ∃ suggestions,
    ((suggest "fox" { targetType := "node", size := 2 }).on
      (completing namesakeStore "field:node.article.node.article.alias")).1 = .ok suggestions ∧
    suggestions.take 1 = [⟨⟨"2"⟩, "Elk", "Foxy", some "Foxy"⟩] ∧
    ((suggest "fox" { targetType := "node", size := 1 }).on
      (completing namesakeStore "field:node.article.node.article.alias")).1 = .ok [] := by
  refine ⟨[⟨⟨"2"⟩, "Elk", "Foxy", some "Foxy"⟩], ?_, rfl, ?_⟩
  · decide +kernel
  · decide +kernel

end Autocomplete
end SynonymLookup
