import Mathlib.Data.List.Perm.Basic
import SynonymLookup.Proofs.Lookup.Coverage

/-! The configurations of a type within some of its bundles, against all that are
stored. Several bundles are answered one after the other, so a configuration comes as
often as they name its bundle. -/

namespace SynonymLookup

section Parts

variable {α κ : Type} {times : α → Nat} {l : List α}

theorem length_filter_le_flatMap_replicate (times : α → Nat) (l : List α) :
    (l.filter fun a => 0 < times a).length ≤
      (l.flatMap fun a => List.replicate (times a) a).length := by
  induction l with
  | nil => exact le_rfl
  | cons a rest ih =>
    rw [List.flatMap_cons, List.length_append, List.length_replicate]
    by_cases ha : 0 < times a
    · simp only [List.filter_cons, ha, decide_true, if_true, List.length_cons]
      omega
    · simp only [List.filter_cons, ha, decide_false, Bool.false_eq_true, if_false]
      omega

theorem flatMap_replicate_eq_filter (h : ∀ a ∈ l, times a ≤ 1) :
    (l.flatMap fun a => List.replicate (times a) a) = l.filter fun a => 0 < times a := by
  induction l with
  | nil => rfl
  | cons a rest ih =>
    have hrest := ih fun b hb => h b (List.mem_cons_of_mem _ hb)
    rcases Nat.le_one_iff_eq_zero_or_eq_one.1 (h a List.mem_cons_self) with ha | ha
    · simp [ha, hrest]
    · simp [ha, hrest]

/-- What is taken once or not at all is filtered. What is taken more often makes the
list too long. -/
theorem flatMap_replicate_perm_filter_iff :
    (l.flatMap fun a => List.replicate (times a) a).Perm (l.filter fun a => 0 < times a) ↔
      ∀ a ∈ l, times a ≤ 1 := by
  refine ⟨fun h => ?_, fun h => .of_eq (flatMap_replicate_eq_filter h)⟩
  replace h := h.length_eq
  induction l with
  | nil => exact fun a ha => absurd ha List.not_mem_nil
  | cons a rest ih =>
    have hrest := length_filter_le_flatMap_replicate times rest
    rw [List.flatMap_cons, List.length_append, List.length_replicate,
      ← List.countP_eq_length_filter, List.countP_cons, List.countP_eq_length_filter] at h
    have ha : times a ≤ 1 ∧ (rest.flatMap fun a => List.replicate (times a) a).length =
        (rest.filter fun a => 0 < times a).length := by
      by_cases hpos : 0 < times a
      · simp only [hpos, decide_true, if_true] at h
        omega
      · simp only [hpos, decide_false, Bool.false_eq_true, if_false] at h
        omega
    intro b hb
    rcases List.mem_cons.1 hb with rfl | hb
    · exact ha.1
    · exact ih ha.2 b hb

theorem flatMap_filter_perm_replicate (p : κ → α → Bool) (keys : List κ) (l : List α) :
    (keys.flatMap fun k => l.filter (p k)).Perm
      (l.flatMap fun a => List.replicate (keys.countP fun k => p k a) a) := by
  induction keys with
  | nil => simp
  | cons k rest ih =>
    have hfirst : l.filter (p k) = l.flatMap fun a =>
        List.replicate (if p k a then 1 else 0) a := by
      rw [flatMap_replicate_eq_filter fun a _ => by split <;> omega]
      refine List.filter_congr fun a _ => ?_
      by_cases ha : p k a = true <;> simp [ha]
    have hjoin : (fun a => List.replicate ((k :: rest).countP fun k => p k a) a) = fun a =>
        List.replicate (if p k a then 1 else 0) a ++ List.replicate
          (rest.countP fun k => p k a) a := by
      funext a
      rw [List.replicate_append_replicate, List.countP_cons, Nat.add_comm]
    rw [List.flatMap_cons, hfirst, hjoin]
    exact (ih.append_left _).trans (List.flatMap_append_perm l _ _)

end Parts

namespace BundleFilter

/-- How often a filter names a bundle. The one for every bundle names each once. -/
def namings : BundleFilter → String → Nat
  | any, _ => 1
  | one b, bundle => [b].count bundle
  | many bs, bundle => bs.count bundle

theorem namings_pos_iff {f : BundleFilter} {bundle : String} :
    0 < f.namings bundle ↔ f.accepts bundle = true := by
  cases f with
  | any => simp [namings, accepts]
  | one b =>
    rw [namings, List.count_pos_iff, List.mem_singleton, accepts, beq_iff_eq, eq_comm]
  | many bs => simp [namings, accepts, List.count_pos_iff]

end BundleFilter

namespace Lookup

open Service Repository

variable {s : Service} {entityType : String} {f : BundleFilter} {c : Configuration}

/-- The configurations whose plugin id names the type and a bundle that the filter accepts. -/
def restrict (entityType : String) (f : BundleFilter) (all : List Configuration) :
    List Configuration :=
  all.filter fun c => c.pluginId?.any fun p => p.entityType == entityType && f.accepts p.bundle

def timesNamed (entityType : String) (f : BundleFilter) (c : Configuration) : Nat :=
  match c.pluginId? with
  | some p => if p.entityType = entityType then f.namings p.bundle else 0
  | none => 0

theorem restrict_eq_filter (entityType : String) (f : BundleFilter) (all : List Configuration) :
    restrict entityType f all = all.filter fun c => 0 < timesNamed entityType f c := by
  refine List.filter_congr fun c _ => ?_
  rw [Bool.eq_iff_iff, decide_eq_true_iff, timesNamed]
  cases c.pluginId? with
  | none => simp
  | some p =>
    by_cases htype : p.entityType = entityType
    · simp [htype, BundleFilter.namings_pos_iff]
    · simp [htype]

theorem timesNamed_many (entityType : String) (bs : List String) (c : Configuration) :
    timesNamed entityType (.many bs) c = bs.countP fun bundle => c.controls entityType bundle := by
  unfold timesNamed Configuration.controls
  cases c.pluginId? with
  | none => simp
  | some p =>
    by_cases htype : p.entityType = entityType
    · simp only [Option.any_some, htype, BEq.rfl, Bool.true_and, if_true,
        BundleFilter.namings, List.count]
      exact List.countP_congr fun bundle _ => by rw [beq_iff_eq, beq_iff_eq, eq_comm]
    · have hother : (p.entityType == entityType) = false := by simpa using htype
      simp [htype, hother]

theorem exists_of_timesNamed_pos (h : 0 < timesNamed entityType f c) :
    ∃ p, c.pluginId? = some p ∧ timesNamed entityType f c = f.namings p.bundle := by
  unfold timesNamed at h ⊢
  split at h
  · rename_i p hp
    split at h
    · rename_i htype
      exact ⟨p, hp, if_pos htype⟩
    · exact absurd h (Nat.lt_irrefl 0)
  · exact absurd h (Nat.lt_irrefl 0)

theorem timesNamed_le_one (h : ∀ bs, f ≠ .many bs) (entityType : String) (c : Configuration) :
    timesNamed entityType f c ≤ 1 := by
  have hnamings (bundle : String) : f.namings bundle ≤ 1 := by
    cases f with
    | any => exact le_rfl
    | one b => exact List.count_le_length
    | many bs => exact absurd rfl (h bs)
  unfold timesNamed
  split
  · split
    · exact hnamings _
    · exact Nat.zero_le 1
  · exact Nat.zero_le 1

/-- A lookup of configurations lists each as often as its bundle is named. -/
theorem configurations_perm (readable : s.Readable)
    (coherent : ∀ bundle, Coherent s entityType bundle)
    (f : BundleFilter) : ∃ list, ((configurations entityType f).on s).1 = .ok list ∧
      list.Perm (s.stored.flatMap fun c => List.replicate (timesNamed entityType f c) c) := by
  have hmany (bs : List String) : (bs.flatMap (s.listed entityType)).Perm
      (s.stored.flatMap fun c => List.replicate (timesNamed entityType (.many bs) c) c) := by
    simp only [timesNamed_many]
    exact flatMap_filter_perm_replicate (fun bundle c => c.controls entityType bundle) bs s.stored
  cases f with
  | any =>
    refine ⟨_, by rw [configurations_any readable], ?_⟩
    have honce : ∀ c ∈ s.stored, timesNamed entityType .any c ≤ 1 :=
      fun c _ => timesNamed_le_one (fun _ => BundleFilter.noConfusion) entityType c
    rw [flatMap_replicate_eq_filter honce, ← restrict_eq_filter]
    simp [ofType, restrict, BundleFilter.accepts]
  | one b =>
    -- one bundle is a list of one
    have hone := hmany [b]
    rw [List.flatMap_singleton] at hone
    exact ⟨_, (coherent b).loadFor_fst readable, hone⟩
  | many bs =>
    exact ⟨_, loadForEach_of_loadFor fun bundle _ =>
      (coherent bundle).loadFor_fst readable, hmany bs⟩

/-- Where the stored configurations can be read, a lookup for a type and a filter finds
those of the type whose bundle the filter accepts, and no other. Each comes as often as the
filter names its bundle, so the lookup restricts the stored list exactly if no bundle that
is named twice has a configuration. -/
theorem configurations_restrict_iff (readable : s.Readable)
    (coherent : ∀ bundle, Coherent s entityType bundle) (f : BundleFilter) :
    ∃ all list, (loadAll.on s).1 = .ok all ∧ ((configurations entityType f).on s).1 = .ok list ∧
      (∀ c, c ∈ list ↔ c ∈ restrict entityType f all) ∧
      list.Perm (all.flatMap fun c => List.replicate (timesNamed entityType f c) c) ∧
      (list.Perm (restrict entityType f all) ↔ ∀ bs, f = .many bs →
        ∀ c ∈ list, ∀ p, c.pluginId? = some p → bs.count p.bundle = 1) := by
  obtain ⟨list, hlist, hperm⟩ := configurations_perm readable coherent f
  have hmem (c : Configuration) :
      c ∈ list ↔ c ∈ s.stored ∧ 0 < timesNamed entityType f c := by
    rw [hperm.mem_iff, List.mem_flatMap]
    constructor
    · rintro ⟨a, ha, hc⟩
      obtain ⟨hne, rfl⟩ := List.mem_replicate.1 hc
      exact ⟨ha, Nat.pos_of_ne_zero hne⟩
    · rintro ⟨hc, hpos⟩
      exact ⟨c, hc, List.mem_replicate.2 ⟨hpos.ne', rfl⟩⟩
  refine ⟨s.stored, list, by rw [loadAll_of_readable readable], hlist, fun c => ?_, hperm, ?_⟩
  · rw [hmem, restrict_eq_filter]
    simp
  · rw [restrict_eq_filter, hperm.congr_left, flatMap_replicate_perm_filter_iff]
    constructor
    · rintro honce bs rfl c hc p hp
      obtain ⟨hstored, hpos⟩ := (hmem c).1 hc
      obtain ⟨p', hp', htimes⟩ := exists_of_timesNamed_pos hpos
      obtain rfl : p' = p := Option.some.inj (hp'.symm.trans hp)
      have hle := honce c hstored
      rw [htimes] at hpos hle
      exact Nat.le_antisymm hle hpos
    · intro honce c hc
      by_cases hbs : ∀ bs, f ≠ .many bs
      · exact timesNamed_le_one hbs entityType c
      · obtain ⟨bs, rfl⟩ : ∃ bs, f = .many bs := by simpa using hbs
        rcases Nat.eq_zero_or_pos (timesNamed entityType (.many bs) c) with hzero | hpos
        · exact hzero ▸ Nat.zero_le 1
        · obtain ⟨p, hp, htimes⟩ := exists_of_timesNamed_pos hpos
          exact (htimes.trans (honce bs rfl c ((hmem c).2 ⟨hc, hpos⟩) p hp)).le

theorem configurations_restrict_iff_survey :
    surveyService.Readable ∧ (∀ bundle, Coherent surveyService "node" bundle) ∧
    ∃ list, ((configurations "node" (.many ["page", "medal", "article", "medal"])).on
        surveyService).1 = .ok list ∧
      list.Perm (restrict "node" (.many ["page", "medal", "article", "medal"]) surveyed) ∧
      list.length = 3 := by
  have readable : surveyService.Readable := ⟨rfl, rfl, by unfold WellFormed; decide +kernel⟩
  have coherent (bundle : String) : Coherent surveyService "node" bundle := coherent_of_empty rfl
  obtain ⟨all, list, hall, hlist, hmem, -, hrestrict⟩ :=
    configurations_restrict_iff readable coherent
    (.many ["page", "medal", "article", "medal"])
  obtain rfl : surveyed = all := by
    rw [loadAll_of_readable readable, stored_surveyService] at hall
    exact Except.ok.inj hall
  have honce : ∀ c ∈ restrict "node" (.many ["page", "medal", "article", "medal"]) surveyed,
      c.pluginId?.all fun p => ["page", "medal", "article", "medal"].count p.bundle == 1 := by
    decide +kernel
  have hperm := hrestrict.2 fun bs hbs c hc p hp => by
    obtain rfl := BundleFilter.many.inj hbs
    simpa [hp] using honce c ((hmem c).1 hc)
  exact ⟨readable, coherent, list, hlist, hperm, hperm.length_eq.trans (by decide +kernel)⟩

def pageService : Service := configuredNotices [.ofPlugin "field:node.page.alias"]

/-- A bundle that is named twice lists its configuration twice. -/
theorem bundle_named_twice :
    pageService.Readable ∧ pageService.cached = .empty ∧
    (loadAll.on pageService).1 = .ok [.ofPlugin "field:node.page.alias"] ∧
    ((configurations "node" (.many ["page", "page"])).on pageService).1 =
      .ok [.ofPlugin "field:node.page.alias", .ofPlugin "field:node.page.alias"] ∧
    ¬ [Configuration.ofPlugin "field:node.page.alias", .ofPlugin "field:node.page.alias"].Perm
      (restrict "node" (.many ["page", "page"]) [.ofPlugin "field:node.page.alias"]) := by
  have readable : pageService.Readable := ⟨rfl, rfl, by unfold WellFormed; decide +kernel⟩
  have hstored : pageService.stored = [.ofPlugin "field:node.page.alias"] := rfl
  refine ⟨readable, rfl, by rw [loadAll_of_readable readable, hstored], ?_, fun hperm => ?_⟩
  · have hlisted : pageService.listed "node" "page" = [.ofPlugin "field:node.page.alias"] := by
      rw [listed, hstored]
      rfl
    have hboth : ((loadForEach "node" ["page", "page"]).on pageService).1 =
        .ok (["page", "page"].flatMap (pageService.listed "node")) :=
      loadForEach_of_loadFor fun bundle _ => (coherent_of_empty rfl).loadFor_fst readable
    rw [configurations, hboth, List.flatMap_cons, List.flatMap_singleton, hlisted]
    rfl
  · have hlength := hperm.length_eq
    revert hlength
    decide +kernel

end Lookup
end SynonymLookup
