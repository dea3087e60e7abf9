import Mathlib.Data.List.Basic
import SynonymLookup.Condition.Basic

/-! What a condition says where every leaf has a truth value: conjunctions and disjunctions over all
children, with no order among them. Evaluating it from left to right comes to the same as soon as no
leaf is refused. -/

namespace SynonymLookup
namespace ConditionOf

variable {γ δ ε : Type}

/-- Induction over a tree, with the hypothesis for every child. -/
@[elab_as_elim]
theorem byChildren {motive : ConditionOf γ → Prop} (leaf : ∀ c, motive (.leaf c))
    (and : ∀ children, (∀ c ∈ children, motive c) → motive (.and children))
    (or : ∀ children, (∀ c ∈ children, motive c) → motive (.or children))
    (c : ConditionOf γ) : motive c := by
  refine @ConditionOf.rec γ motive (fun l => ∀ c ∈ l, motive c) leaf and or ?_ ?_ c
  · intro c hc
    cases hc
  · intro head tail hhead htail c hc
    rcases List.mem_cons.1 hc with rfl | hc
    · exact hhead
    · exact htail c hc

mutual

def meets (truth : ComparisonOf γ → Bool) : ConditionOf γ → Bool
  | leaf c => truth c
  | and children => allMeet truth children
  | or children => anyMeets truth children

def allMeet (truth : ComparisonOf γ → Bool) : List (ConditionOf γ) → Bool
  | [] => true
  | c :: rest => meets truth c && allMeet truth rest

def anyMeets (truth : ComparisonOf γ → Bool) : List (ConditionOf γ) → Bool
  | [] => false
  | c :: rest => meets truth c || anyMeets truth rest

end

mutual

/-- The comparisons at all leaves, depth first. -/
def leaves : ConditionOf γ → List (ComparisonOf γ)
  | leaf c => [c]
  | and children => leavesOfAll children
  | or children => leavesOfAll children

def leavesOfAll : List (ConditionOf γ) → List (ComparisonOf γ)
  | [] => []
  | c :: rest => leaves c ++ leavesOfAll rest

end

@[simp] theorem meets_leaf (truth : ComparisonOf γ → Bool) (c : ComparisonOf γ) :
    (leaf c).meets truth = truth c := by rw [meets]

@[simp] theorem meets_and (truth : ComparisonOf γ → Bool) (children : List (ConditionOf γ)) :
    (ConditionOf.and children).meets truth = children.all (meets truth) := by
  rw [meets]
  induction children with
  | nil => rw [allMeet]; rfl
  | cons c rest ih => rw [allMeet, ih, List.all_cons]

@[simp] theorem meets_or (truth : ComparisonOf γ → Bool) (children : List (ConditionOf γ)) :
    (ConditionOf.or children).meets truth = children.any (meets truth) := by
  rw [meets]
  induction children with
  | nil => rw [anyMeets]; rfl
  | cons c rest ih => rw [anyMeets, ih, List.any_cons]

@[simp] theorem leaves_leaf (c : ComparisonOf γ) : (leaf c).leaves = [c] := by rw [leaves]

theorem leavesOfAll_eq (l : List (ConditionOf γ)) : leavesOfAll l = l.flatMap leaves := by
  induction l with
  | nil => rw [leavesOfAll]; rfl
  | cons c rest ih => rw [leavesOfAll, ih, List.flatMap_cons]

@[simp] theorem leaves_and (children : List (ConditionOf γ)) :
    (ConditionOf.and children).leaves = children.flatMap leaves := by rw [leaves, leavesOfAll_eq]

@[simp] theorem leaves_or (children : List (ConditionOf γ)) :
    (ConditionOf.or children).leaves = children.flatMap leaves := by rw [leaves, leavesOfAll_eq]

@[simp] theorem map_leaf (f : γ → δ) (c : ComparisonOf γ) :
    (leaf c).map f = leaf { c with column := f c.column } := by rw [map]

@[simp] theorem map_and (f : γ → δ) (children : List (ConditionOf γ)) :
    (ConditionOf.and children).map f = .and (children.map (map f)) := by rw [map, mapAll_eq]

@[simp] theorem map_or (f : γ → δ) (children : List (ConditionOf γ)) :
    (ConditionOf.or children).map f = .or (children.map (map f)) := by rw [map, mapAll_eq]

theorem columns_eq_leaves (c : ConditionOf γ) : c.columns = c.leaves.map (·.column) := by
  induction c using byChildren with
  | leaf c => simp
  | and children ih =>
    simp only [columns_and, leaves_and, List.map_flatMap]
    exact List.flatMap_congr ih
  | or children ih =>
    simp only [columns_or, leaves_or, List.map_flatMap]
    exact List.flatMap_congr ih

theorem leaves_map (f : γ → δ) (c : ConditionOf γ) :
    (c.map f).leaves = c.leaves.map fun l => { l with column := f l.column } := by
  induction c using byChildren with
  | leaf c => simp
  | and children ih =>
    simp only [map_and, leaves_and, List.map_flatMap, List.flatMap_map]
    exact List.flatMap_congr ih
  | or children ih =>
    simp only [map_or, leaves_or, List.map_flatMap, List.flatMap_map]
    exact List.flatMap_congr ih

theorem all_congr_mem {l : List (ConditionOf γ)} {p q : ConditionOf γ → Bool}
    (h : ∀ c ∈ l, p c = q c) : l.all p = l.all q := by
  rw [Bool.eq_iff_iff, List.all_eq_true, List.all_eq_true]
  exact forall₂_congr fun c hc => by rw [h c hc]

theorem any_congr_mem {l : List (ConditionOf γ)} {p q : ConditionOf γ → Bool}
    (h : ∀ c ∈ l, p c = q c) : l.any p = l.any q := by
  rw [Bool.eq_iff_iff, List.any_eq_true, List.any_eq_true]
  exact exists_congr fun c => and_congr_right fun hc => by rw [h c hc]

theorem meets_map (f : γ → δ) (truth : ComparisonOf δ → Bool) (c : ConditionOf γ) :
    (c.map f).meets truth = c.meets fun l => truth { l with column := f l.column } := by
  induction c using byChildren with
  | leaf c => simp
  | and children ih =>
    simp only [map_and, meets_and, List.all_map]
    exact all_congr_mem ih
  | or children ih =>
    simp only [map_or, meets_or, List.any_map]
    exact any_congr_mem ih

theorem meets_congr {truth truth' : ComparisonOf γ → Bool} {c : ConditionOf γ}
    (h : ∀ l ∈ c.leaves, truth l = truth' l) : c.meets truth = c.meets truth' := by
  induction c using byChildren with
  | leaf c => simpa using h
  | and children ih =>
    rw [leaves_and] at h
    rw [meets_and, meets_and]
    exact all_congr_mem fun c hc => ih c hc fun l hl => h l (List.mem_flatMap.2 ⟨c, hc, hl⟩)
  | or children ih =>
    rw [leaves_or] at h
    rw [meets_or, meets_or]
    exact any_congr_mem fun c hc => ih c hc fun l hl => h l (List.mem_flatMap.2 ⟨c, hc, hl⟩)

theorem allHold_eq {test : ComparisonOf γ → Except ε Bool} {truth : ComparisonOf γ → Bool}
    {l : List (ConditionOf γ)} (h : ∀ c ∈ l, c.holds test = .ok (c.meets truth)) :
    allHold test l = .ok (l.all (meets truth)) := by
  induction l with
  | nil =>
    rw [allHold]
    rfl
  | cons c rest ih =>
    have ih := ih fun d hd => h d (List.mem_cons_of_mem _ hd)
    rw [allHold, h c List.mem_cons_self, List.all_cons, ih]
    cases c.meets truth <;> rfl

theorem anyHolds_eq {test : ComparisonOf γ → Except ε Bool} {truth : ComparisonOf γ → Bool}
    {l : List (ConditionOf γ)} (h : ∀ c ∈ l, c.holds test = .ok (c.meets truth)) :
    anyHolds test l = .ok (l.any (meets truth)) := by
  induction l with
  | nil =>
    rw [anyHolds]
    rfl
  | cons c rest ih =>
    have ih := ih fun d hd => h d (List.mem_cons_of_mem _ hd)
    rw [anyHolds, h c List.mem_cons_self, List.any_cons, ih]
    cases c.meets truth <;> rfl

/-- Where no leaf is refused, evaluating a tree gives its truth. -/
theorem holds_eq_meets {test : ComparisonOf γ → Except ε Bool} {truth : ComparisonOf γ → Bool}
    {c : ConditionOf γ} (h : ∀ l ∈ c.leaves, test l = .ok (truth l)) :
    c.holds test = .ok (c.meets truth) := by
  induction c using byChildren with
  | leaf c =>
    rw [holds, meets_leaf]
    exact h c (by simp)
  | and children ih =>
    rw [leaves_and] at h
    rw [holds, meets_and]
    exact allHold_eq fun c hc => ih c hc fun l hl => h l (List.mem_flatMap.2 ⟨c, hc, hl⟩)
  | or children ih =>
    rw [leaves_or] at h
    rw [holds, meets_or]
    exact anyHolds_eq fun c hc => ih c hc fun l hl => h l (List.mem_flatMap.2 ⟨c, hc, hl⟩)

theorem traverseAll_eq {f : γ → Except ε δ} {g : γ → δ} {l : List (ConditionOf γ)}
    (h : ∀ c ∈ l, c.traverse f = .ok (c.map g)) : traverseAll f l = .ok (l.map (map g)) := by
  induction l with
  | nil =>
    rw [traverseAll]
    rfl
  | cons c rest ih =>
    rw [traverseAll, h c List.mem_cons_self, ih fun d hd => h d (List.mem_cons_of_mem _ hd)]
    rfl

theorem traverse_eq_map {f : γ → Except ε δ} {g : γ → δ} {c : ConditionOf γ}
    (h : ∀ x ∈ c.columns, f x = .ok (g x)) : c.traverse f = .ok (c.map g) := by
  induction c using byChildren with
  | leaf c =>
    rw [traverse, h c.column (by simp), map_leaf]
    rfl
  | and children ih =>
    rw [columns_and] at h
    have hall : ∀ c ∈ children, c.traverse f = .ok (c.map g) := fun c hc =>
      ih c hc fun x hx => h x (List.mem_flatMap.2 ⟨c, hc, hx⟩)
    rw [traverse, traverseAll_eq hall, map_and]
    rfl
  | or children ih =>
    rw [columns_or] at h
    have hall : ∀ c ∈ children, c.traverse f = .ok (c.map g) := fun c hc =>
      ih c hc fun x hx => h x (List.mem_flatMap.2 ⟨c, hc, hx⟩)
    rw [traverse, traverseAll_eq hall, map_or]
    rfl

end ConditionOf
end SynonymLookup
