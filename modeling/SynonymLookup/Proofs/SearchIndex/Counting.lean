import Mathlib.Algebra.BigOperators.Group.Finset.Basic
import Mathlib.Algebra.Order.BigOperators.Group.Finset
import SynonymLookup.Proofs.Provider.Definitions
import SynonymLookup.Proofs.Schema.Edits
import SynonymLookup.Proofs.SearchIndex.Marking

/-! How many hosts marking tells. A host is counted in each field through which it is
found, but it is flagged once. -/

namespace SynonymLookup

theorem Schema.WithoutPoints.insertField {s : Schema} (h : s.WithoutPoints)
    (entityType bundle : String) {f : Field}
    (hf : '.' ∉ f.name.toList) : (s.insertField entityType bundle f).WithoutPoints where
  field hg := by
    rcases s.mem_fieldsOf_of_insertField _ _ hg with rfl | hg
    · exact hf
    · exact h.field hg
  key := by
    intro id t key ht hkey
    have hknown : s.entityType? id = some t := by
      rw [Schema.insertField] at ht
      split at ht <;> exact ht
    exact h.key hknown hkey

namespace Store

/-- Where no column is selected, an entity makes one row at most. -/
theorem nodup_of_rows {s : Store} (built : s.Built) {q : Query} (hcolumns : q.columns = [])
    {rows : List Row} (h : s.rows q = .ok rows) : (rows.map (·.entityId)).Nodup := by
  have hcandidates : s.candidatesOf q = (s.entitiesOf q.entityType).values.map fun e =>
      (e, .empty) := by
    rw [candidatesOf, hcolumns]
    exact List.map_eq_flatMap.symm
  rw [rows_of_answers (answers_of_rows h), hcandidates] at h
  have hsub := (sublist_of_collectRows h).map Row.entityId
  refine ((built.consistent.ids_nodup q.entityType).sublist ?_).sublist hsub
  rw [List.filter_map, List.map_map, List.map_map]
  exact List.filter_sublist.map Entity.id

theorem rows_referring_nil {s : Store} {host field : String} {rows : List Row}
    (h : s.rows (referring host field (.array [])) = .ok rows) : rows = [] := by
  rw [List.eq_nil_iff_forall_not_mem]
  intro row hrow
  obtain ⟨e, -, b, -, -, hholds⟩ := exists_of_mem_rows h hrow
  have htakes : Operator.isIn.Takes (.array []) := ⟨fun _ => rfl, by simp⟩
  rw [referring, Condition.onColumn, Condition.compare, ConditionOf.holds, leafTest,
    Evaluation.evaluate_of_takes htakes] at hholds
  have hadmits : Test.isIn.admits (.array []) = fun _ => false := rfl
  simp [Operator.verdict, Operator.demand, Test.admitsAny, hadmits] at hholds

end Store

namespace SearchIndex

open Service

structure Host where
  entityType : String
  id : EntityId
deriving DecidableEq, Repr

def foundIn (s : Store) (targets : Json) (place : String × String) : List Host :=
  ((s.rows (Store.referring place.1 place.2 targets)).toOption.getD []).map fun row =>
    ⟨place.1, row.entityId⟩

def found (s : Store) (targetType : String) (ids : List EntityId) : List Host :=
  (hostFields s.schema targetType).flatMap (foundIn s (.array (ids.map EntityId.toJson)))

def fieldsTo (s : Store) (targetType : String) (ids : List EntityId) (host : Host) :
    List String :=
  ((hostFields s.schema targetType).filter fun place =>
    (foundIn s (.array (ids.map EntityId.toJson)) place).contains host).map Prod.snd

section Found

variable {s : Store} {targetType : String} {ids : List EntityId}

theorem foundIn_of_rows {targets : Json} {place : String × String} {rows : List Row}
    (h : s.rows (Store.referring place.1 place.2 targets) = .ok rows) :
    foundIn s targets place = rows.map fun row => ⟨place.1, row.entityId⟩ := by
  rw [foundIn, h]
  rfl

theorem mem_foundIn_iff {targets : Json} {place : String × String} {host : Host} :
    host ∈ foundIn s targets place ↔ place.1 = host.entityType ∧ ∃ rows,
      s.rows (Store.referring place.1 place.2 targets) = .ok rows ∧
      host.id ∈ rows.map (·.entityId) := by
  cases h : s.rows (Store.referring place.1 place.2 targets) with
  | error e => simp [foundIn, h, Except.toOption]
  | ok rows =>
    simp only [foundIn_of_rows h, List.mem_map, Except.ok.injEq, exists_eq_left']
    constructor
    · rintro ⟨row, hrow, rfl⟩
      exact ⟨rfl, row, hrow, rfl⟩
    · rintro ⟨htype, row, hrow, hid⟩
      exact ⟨row, hrow, by rw [htype, hid]⟩

theorem nodup_foundIn (built : s.Built) (targets : Json) (place : String × String) :
    (foundIn s targets place).Nodup := by
  cases h : s.rows (Store.referring place.1 place.2 targets) with
  | error e => simp [foundIn, h, Except.toOption]
  | ok rows =>
    have hids := Store.nodup_of_rows built rfl h
    rw [foundIn_of_rows h]
    have hhosts := hids.map fun id id' (heq : Host.mk place.1 id = ⟨place.1, id'⟩) =>
      congrArg Host.id heq
    rwa [List.map_map] at hhosts

/-- No field of a host type is looked at twice, also where several bundles have it. -/
theorem nodup_hostFields (built : s.Built) (targetType : String) :
    (hostFields s.schema targetType).Nodup := by
  unfold hostFields
  refine List.pairwise_flatMap.2
    ⟨?_, List.pairwise_map.2 (built.consistent.contentTypes_apart.imp ?_)⟩
  · intro entry _
    exact entry.2.nodup_keys.map (Prod.mk_right_injective entry.1)
  · intro t t' hne place hplace place' hplace' heq
    obtain ⟨_, -, rfl⟩ := List.mem_map.1 hplace
    obtain ⟨_, -, rfl⟩ := List.mem_map.1 hplace'
    exact hne (congrArg Prod.fst heq)

theorem nodup_fieldsTo (built : s.Built) (host : Host) :
    (fieldsTo s targetType ids host).Nodup := by
  refine List.Nodup.map_on ?_ ((nodup_hostFields built targetType).filter _)
  -- all of them are fields of the host's own type
  have htype : ∀ place ∈ (hostFields s.schema targetType).filter fun place =>
      (foundIn s (.array (ids.map EntityId.toJson)) place).contains host, place.1 =
        host.entityType := by
    intro place hplace
    have hhost := List.contains_iff_mem.1 (List.mem_filter.1 hplace).2
    exact (mem_foundIn_iff.1 hhost).1
  intro place hplace place' hplace' hname
  exact Prod.ext ((htype place hplace).trans (htype place' hplace').symm) hname

/-- A host is found once through each of its fields. -/
theorem count_found (built : s.Built) (host : Host) :
    (found s targetType ids).count host = (fieldsTo s targetType ids host).length := by
  rw [found, fieldsTo, List.length_map, ← List.countP_eq_length_filter, List.count_flatMap]
  induction hostFields s.schema targetType with
  | nil => rfl
  | cons place rest ih =>
    rw [List.map_cons, List.sum_cons, ih, List.countP_cons, Function.comp_apply,
      (nodup_foundIn built _ place).count, add_comm]
    simp only [List.contains_iff_mem]

theorem mem_fieldsTo_iff {host : Host} {field : String} :
    field ∈ fieldsTo s targetType ids host ↔
      (host.entityType, field) ∈ hostFields s.schema targetType ∧
      host ∈ foundIn s (.array (ids.map EntityId.toJson)) (host.entityType, field) := by
  simp only [fieldsTo, List.mem_map, List.mem_filter, List.contains_iff_mem]
  constructor
  · rintro ⟨⟨type, name⟩, ⟨hplace, hhost⟩, rfl⟩
    obtain rfl : type = host.entityType := (mem_foundIn_iff.1 hhost).1
    exact ⟨hplace, hhost⟩
  · rintro ⟨hplace, hhost⟩
    exact ⟨_, ⟨hplace, hhost⟩, rfl⟩

theorem found_nil (s : Store) (targetType : String) : found s targetType [] = [] := by
  refine List.flatMap_eq_nil_iff.2 fun place _ => ?_
  cases h : s.rows (Store.referring place.1 place.2 (.array [])) with
  | error e => simp [foundIn, h, Except.toOption]
  | ok rows =>
    rw [List.map_nil, foundIn_of_rows h, Store.rows_referring_nil h]
    rfl

end Found

theorem length_of_markHosts {targets : Json} {list : List (String × String)}
    {s s' : Service} {n : Nat} (h : (markHosts targets list).on s = (.ok n, s')) :
    n = (list.flatMap (foundIn s.store targets)).length := by
  induction list generalizing s n with
  | nil =>
    cases h
    rfl
  | cons first rest ih =>
    obtain ⟨host, field⟩ := first
    obtain ⟨rows, b, m, hfound, hrows, -, hrest, rfl⟩ := of_markHosts_cons h
    have hsame : foundIn b.store targets = foundIn s.store targets := by
      funext place
      rw [foundIn, hrows, foundIn]
    rw [List.flatMap_cons, List.length_append, foundIn_of_rows hfound, List.length_map, ih hrest]
    show _ + (rest.flatMap (foundIn b.store targets)).length = _
    rw [hsame]

theorem of_markForReindex {u u' : Service} {targetType : String} {ids : List EntityId} {n : Nat}
    (h : (markForReindex targetType ids).on u = (.ok n, u')) :
    n = (found u.store targetType ids).length ∧ ∀ {host id}, id ∈ u'.store.reindexQueue host ↔
      id ∈ u.store.reindexQueue host ∨ ⟨host, id⟩ ∈ found u.store targetType ids := by
  by_cases hnone : ids = []
  · subst hnone
    cases h
    simp [found_nil]
  rw [markForReindex_on hnone] at h
  refine ⟨length_of_markHosts h, fun {host id} => ?_⟩
  rw [mem_reindexQueue_markHosts h, found, List.mem_flatMap]
  refine or_congr_right ?_
  constructor
  · rintro ⟨field, rows, hmem, hfound, hid⟩
    exact ⟨_, hmem, mem_foundIn_iff.2 ⟨rfl, rows, hfound, hid⟩⟩
  · rintro ⟨⟨type, field⟩, hmem, hhost⟩
    obtain ⟨htype, rows, hfound, hid⟩ := mem_foundIn_iff.1 hhost
    cases htype
    exact ⟨field, rows, hmem, hfound, hid⟩

/-- Marking that succeeds flags the hosts that were found, and tells for each in how many
different fields it was found. So it tells how many hosts there are only if each was found in
one field. The fields of a host are those that lead to the type and in which the stored
entity refers to one of the ids. -/
theorem hosts_counted_by_field {u u' : Service} (built : u.store.Built) {targetType : String}
    {ids : List EntityId} {n : Nat} (h : (markForReindex targetType ids).on u = (.ok n, u')) :
    (∀ host id, id ∈ u'.store.reindexQueue host ↔
      id ∈ u.store.reindexQueue host ∨ ⟨host, id⟩ ∈ found u.store targetType ids) ∧
    n = ∑ host ∈ (found u.store targetType ids).toFinset,
    (fieldsTo u.store targetType ids host).length ∧
    (∀ host, (fieldsTo u.store targetType ids host).Nodup) ∧
    (n = (found u.store targetType ids).toFinset.card ↔
      ∀ host ∈ found u.store targetType ids, (fieldsTo u.store targetType ids host).length = 1) ∧
    (u.schema.WithoutPoints → ∀ host id field, field ∈ fieldsTo u.store targetType ids ⟨host, id⟩ ↔
      ∃ e f, u.store.load host id = some e ∧ LeadsTo u.schema host targetType f ∧ f.name = field ∧
        e.refersToAny field ids = true) := by
  obtain ⟨hlength, hflags⟩ := of_markForReindex h
  have hsum : n = ∑ host ∈ (found u.store targetType ids).toFinset,
      (fieldsTo u.store targetType ids host).length := by
    rw [hlength, ← List.sum_toFinset_count_eq_length]
    exact Finset.sum_congr rfl fun host _ => count_found built host
  refine ⟨fun _ _ => hflags, hsum, nodup_fieldsTo built, ?_, fun names host id field => ?_⟩
  · -- every host that was found has one field at least
    have hone : ∀ host ∈ (found u.store targetType ids).toFinset,
        1 ≤ (fieldsTo u.store targetType ids host).length := by
      intro host hhost
      rw [← count_found built]
      exact List.one_le_count_iff.2 (List.mem_toFinset.1 hhost)
    rw [hsum, Finset.card_eq_sum_ones, eq_comm, Finset.sum_eq_sum_iff_of_le hone]
    simp only [List.mem_toFinset, eq_comm]
  · rw [mem_fieldsTo_iff, mem_hostFields_iff built]
    constructor
    · rintro ⟨⟨f, hf, rfl⟩, hhost⟩
      obtain ⟨rows, hrows, hiff⟩ := exists_rows_of_leadsTo built names hf ids
      obtain ⟨-, rows', hrows', hid⟩ := mem_foundIn_iff.1 hhost
      cases hrows.symm.trans hrows'
      obtain ⟨e, he, hrefers⟩ := (hiff id).1 hid
      exact ⟨e, f, he, hf, rfl, hrefers⟩
    · rintro ⟨e, f, he, hf, rfl, hrefers⟩
      obtain ⟨rows, hrows, hiff⟩ := exists_rows_of_leadsTo built names hf ids
      exact ⟨⟨f, hf, rfl⟩, mem_foundIn_iff.2 ⟨rfl, rows, hrows, (hiff id).2 ⟨e, he, hrefers⟩⟩⟩

/-- Ann wrote and edited the first page. She wrote the second as well, but Bob edited it. -/
def editedService : Service :=
  let user (id name : String) : Entity :=
    { entityType := "user", bundle := "user", id := ⟨id⟩, label := some name }
  let page (id editor : String) : Entity :=
    ({ entityType := "node", bundle := "page", id := ⟨id⟩ : Entity }.withReferences
      "author" [⟨"2"⟩]).withReferences "editor" [⟨editor⟩]
  let edited := (ReferenceProvider.authorStore "user").mapSchema
    (·.insertField "node" "page" (.reference "editor" "Editor" "user"))
  { backend :=
      { store :=
          ((edited.insertEntity (user "3" "Bob")).insertEntity (page "1" "2")).insertEntity
            (page "4" "3") } }

theorem built_edited : editedService.store.Built :=
  .insertEntity _ (.insertEntity _ (.insertEntity _
    (.insertField _ _ _ (ReferenceProvider.built_authorStore "user"))))

theorem withoutPoints_edited : editedService.schema.WithoutPoints :=
  Lookup.plain_author.withoutPoints.insertField "node" "page"
    (f := .reference "editor" "Editor" "user")
    (by decide)

theorem hosts_counted_by_field_pages :
    editedService.store.Built ∧ editedService.schema.WithoutPoints ∧
    ((markForReindex "user" [⟨"3"⟩]).on editedService).1 = .ok 1 ∧
    ⟨"4"⟩ ∈ ((markForReindex "user" [⟨"3"⟩]).on editedService).2.store.reindexQueue "node" ∧
    1 = (found editedService.store "user" [⟨"3"⟩]).toFinset.card ∧
    ∃ e f, editedService.store.load "node" ⟨"4"⟩ = some e ∧
      LeadsTo editedService.schema "node" "user" f ∧ f.name = "editor" ∧
        e.refersToAny "editor" [⟨"3"⟩] = true := by
  have hmark : ((markForReindex "user" [⟨"3"⟩]).on editedService).1 = .ok 1 := by decide +kernel
  have hfound : found editedService.store "user" [⟨"3"⟩] = [⟨"node", ⟨"4"⟩⟩] := by decide +kernel
  have hfields : fieldsTo editedService.store "user" [⟨"3"⟩] ⟨"node", ⟨"4"⟩⟩ = ["editor"] := by
    decide +kernel
  obtain ⟨hflags, -, -, hcount, hfield⟩ :=
    hosts_counted_by_field built_edited (Step.on_eq_of_fst hmark)
  refine ⟨built_edited, withoutPoints_edited, hmark, (hflags _ _).2 (.inr ?_), hcount.2 ?_,
    (hfield withoutPoints_edited _ _ _).1 ?_⟩
  · rw [hfound]
    exact List.mem_cons_self
  · intro host hhost
    rw [hfound, List.mem_singleton] at hhost
    rw [hhost, hfields]
    rfl
  · rw [hfields]
    exact List.mem_cons_self

/-- The page that Ann both wrote and edited is counted twice. -/
theorem three_told_two_flagged :
    ((markForReindex "user" [⟨"2"⟩]).on editedService).1 = .ok 3 ∧
    editedService.store.reindexQueue "node" = [] ∧
    ((markForReindex "user" [⟨"2"⟩]).on editedService).2.store.reindexQueue "node" =
      [⟨"1"⟩, ⟨"4"⟩] ∧
    ¬∀ (u u' : Service) (targetType : String) (ids : List EntityId) (n : Nat), u.store.Built →
      (markForReindex targetType ids).on u = (.ok n, u') →
        n = (found u.store targetType ids).toFinset.card := by
  have hmark : ((markForReindex "user" [⟨"2"⟩]).on editedService).1 = .ok 3 := by decide +kernel
  have hcard : (found editedService.store "user" [⟨"2"⟩]).toFinset.card = 2 := by decide +kernel
  refine ⟨hmark, rfl, by decide +kernel, fun hcount => ?_⟩
  have htold := hcount _ _ _ _ 3 built_edited (Step.on_eq_of_fst hmark)
  rw [hcard] at htold
  cases htold

end SearchIndex

end SynonymLookup
