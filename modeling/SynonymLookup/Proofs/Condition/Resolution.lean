import Mathlib.Data.List.Forall2
import SynonymLookup.Proofs.Condition.Meaning

/-! Putting columns in place of the placeholders. A tree is told by its shape and its
columns, so what becomes of the columns in their order says everything about a
replacement that keeps the shape. -/

namespace SynonymLookup
namespace ConditionOf

variable {γ δ : Type}

/-- Trees that differ in nothing but their columns. -/
inductive SameShape : ConditionOf γ → ConditionOf δ → Prop
  | leaf {c : ComparisonOf γ} {d : ComparisonOf δ} (operator : c.operator = d.operator)
      (value : c.value = d.value) : SameShape (.leaf c) (.leaf d)
  | and {l : List (ConditionOf γ)} {l' : List (ConditionOf δ)}
      (children : List.Forall₂ SameShape l l') : SameShape (.and l) (.and l')
  | or {l : List (ConditionOf γ)} {l' : List (ConditionOf δ)}
      (children : List.Forall₂ SameShape l l') : SameShape (.or l) (.or l')

inductive HasLeaf (l : ComparisonOf γ) : ConditionOf γ → Prop
  | leaf : HasLeaf l (.leaf l)
  | and {child : ConditionOf γ} {children : List (ConditionOf γ)} (mem : child ∈ children)
      (within : HasLeaf l child) : HasLeaf l (.and children)
  | or {child : ConditionOf γ} {children : List (ConditionOf γ)} (mem : child ∈ children)
      (within : HasLeaf l child) : HasLeaf l (.or children)

theorem hasLeaf_iff {l : ComparisonOf γ} {c : ConditionOf γ} : HasLeaf l c ↔ l ∈ c.leaves := by
  constructor
  · intro h
    induction h with
    | leaf => simp
    | and mem _ ih =>
      rw [leaves_and]
      exact List.mem_flatMap.2 ⟨_, mem, ih⟩
    | or mem _ ih =>
      rw [leaves_or]
      exact List.mem_flatMap.2 ⟨_, mem, ih⟩
  · intro h
    induction c using byChildren with
    | leaf c =>
      rw [leaves_leaf, List.mem_singleton] at h
      exact h ▸ .leaf
    | and children ih =>
      rw [leaves_and] at h
      obtain ⟨child, mem, hl⟩ := List.mem_flatMap.1 h
      exact .and mem (ih child mem hl)
    | or children ih =>
      rw [leaves_or] at h
      obtain ⟨child, mem, hl⟩ := List.mem_flatMap.1 h
      exact .or mem (ih child mem hl)

@[elab_as_elim]
theorem SameShape.byChildren
    {motive : (c : ConditionOf γ) → (d : ConditionOf δ) → SameShape c d → Prop}
    (leaf : ∀ {c d} (operator : c.operator = d.operator) (value : c.value = d.value),
      motive (.leaf c) (.leaf d) (.leaf operator value))
    (and : ∀ {l l'} (children : List.Forall₂ SameShape l l'),
      List.Forall₂ (fun c d => ∃ h, motive c d h) l l' → motive (.and l) (.and l') (.and children))
    (or : ∀ {l l'} (children : List.Forall₂ SameShape l l'),
      List.Forall₂ (fun c d => ∃ h, motive c d h) l l' → motive (.or l) (.or l') (.or children))
    {c : ConditionOf γ} {d : ConditionOf δ} (h : SameShape c d) : motive c d h := by
  refine @SameShape.rec γ δ motive
    (fun l l' _ => List.Forall₂ (fun c d => ∃ h, motive c d h) l l') leaf and or .nil ?_ c d h
  exact fun hhead _ ihhead ihtail => .cons ⟨hhead, ihhead⟩ ihtail

theorem SameShape.length_columns {c : ConditionOf γ} {d : ConditionOf δ} (h : SameShape c d) :
    c.columns.length = d.columns.length := by
  have hchildren {l : List (ConditionOf γ)} {l' : List (ConditionOf δ)}
      (h : List.Forall₂
        (fun c d => ∃ _ : SameShape c d, c.columns.length = d.columns.length) l l') :
      (l.flatMap columns).length = (l'.flatMap columns).length := by
    induction h with
    | nil => rfl
    | cons hhead _ ih =>
      obtain ⟨-, hhead⟩ := hhead
      rw [List.flatMap_cons, List.flatMap_cons, List.length_append, List.length_append, hhead, ih]
  induction h using SameShape.byChildren with
  | leaf => rw [columns_leaf, columns_leaf]; rfl
  | and _ ih =>
    rw [columns_and, columns_and]
    exact hchildren ih
  | or _ ih =>
    rw [columns_or, columns_or]
    exact hchildren ih

/-- A tree is told by its shape and its columns. -/
theorem SameShape.eq_of_columns {c d : ConditionOf γ} (h : SameShape c d)
    (hcolumns : c.columns = d.columns) : c = d := by
  have hchildren {l l' : List (ConditionOf γ)}
      (h : List.Forall₂ (fun c d => ∃ _ : SameShape c d, c.columns = d.columns → c = d) l l')
      (hcolumns : l.flatMap columns = l'.flatMap columns) : l = l' := by
    induction h with
    | nil => rfl
    | cons hhead _ ih =>
      obtain ⟨hshape, hhead⟩ := hhead
      rw [List.flatMap_cons, List.flatMap_cons] at hcolumns
      -- heads of one shape have equally many columns, so the columns part at the same place
      obtain ⟨hfirst, hrest⟩ := List.append_inj hcolumns hshape.length_columns
      rw [hhead hfirst, ih hrest]
  induction h using SameShape.byChildren with
  | @leaf c d operator value =>
    obtain ⟨column, _, _⟩ := c
    obtain ⟨column', _, _⟩ := d
    cases operator
    cases value
    rw [columns_leaf, columns_leaf] at hcolumns
    cases hcolumns
    rfl
  | and _ ih =>
    rw [columns_and, columns_and] at hcolumns
    rw [hchildren ih hcolumns]
  | or _ ih =>
    rw [columns_or, columns_or] at hcolumns
    rw [hchildren ih hcolumns]

theorem sameShape_map (f : γ → δ) (c : ConditionOf γ) : SameShape c (c.map f) := by
  have hchildren {l : List (ConditionOf γ)} (h : ∀ c ∈ l, SameShape c (c.map f)) :
      List.Forall₂ SameShape l (l.map (map f)) :=
    List.forall₂_map_right_iff.2 (List.forall₂_same.2 h)
  induction c using byChildren with
  | leaf c =>
    rw [map_leaf]
    exact .leaf rfl rfl
  | and children ih =>
    rw [map_and]
    exact .and (hchildren ih)
  | or children ih =>
    rw [map_or]
    exact .or (hchildren ih)

theorem columns_map (f : γ → δ) (c : ConditionOf γ) : (c.map f).columns = c.columns.map f := by
  rw [columns_eq_leaves, leaves_map, columns_eq_leaves, List.map_map, List.map_map]
  rfl

end ConditionOf

theorem Column.bind_eq_self_iff {s e : String} {c : Column} :
    c.bind s e = c ↔ c.isPlaceholder = false := by
  cases c <;> simp [bind, isPlaceholder]

namespace Condition

theorem firstPlaceholder?_eq_none_iff {c : Condition} :
    c.firstPlaceholder? = none ↔ ∀ column ∈ c.columns, column.isPlaceholder = false := by
  simp [firstPlaceholder?]

theorem isResolved_iff {c : Condition} :
    c.isResolved = true ↔ ∀ column ∈ c.columns, column.isPlaceholder = false := by
  rw [isResolved, Option.isNone_iff_eq_none, firstPlaceholder?_eq_none_iff]

theorem columns_resolve (c : Condition) (s e : String) :
    (c.resolve s e).columns = c.columns.map (Column.bind s e) :=
  ConditionOf.columns_map _ c

theorem isResolved_resolve (c : Condition) (s e : String) : (c.resolve s e).isResolved = true := by
  rw [isResolved_iff, columns_resolve]
  intro column hcolumn
  obtain ⟨before, -, rfl⟩ := List.mem_map.1 hcolumn
  exact Column.isPlaceholder_bind s e before

/-- Exactly a resolved condition stays as it is. -/
theorem resolve_eq_self_iff {c : Condition} {s e : String} :
    c.resolve s e = c ↔ c.isResolved = true := by
  have hcolumns : c.resolve s e = c ↔ c.columns.map (Column.bind s e) = c.columns := by
    rw [← columns_resolve]
    refine ⟨fun h => by rw [h], fun h => ?_⟩
    exact ((ConditionOf.sameShape_map _ c).eq_of_columns h.symm).symm
  have hkept : c.columns.map (Column.bind s e) = c.columns ↔
      ∀ column ∈ c.columns, column.bind s e = column := by
    conv_lhs => rw [← List.map_id c.columns, List.map_map]
    exact List.map_inj_left
  rw [hcolumns, hkept, isResolved_iff]
  exact forall₂_congr fun _ _ => Column.bind_eq_self_iff

/-- Resolving leaves no placeholder at any depth and changes nothing but the columns, each
placeholder to its own name. A second time it changes nothing, as it changes exactly the conditions
with a placeholder left; and a placeholder is found exactly if a leaf has one. -/
theorem placeholders_resolved (c : Condition) (s e s' e' : String) :
    (∀ l, ConditionOf.HasLeaf l (c.resolve s e) → l.column.isPlaceholder = false) ∧
    (c.resolve s e).columns = c.columns.map (fun
      | .synonym => .named s
      | .entityId => .named e
      | .named name => .named name) ∧
    ConditionOf.SameShape c (c.resolve s e) ∧
    (c.resolve s e).resolve s' e' = c.resolve s e ∧
    (c.resolve s e = c ↔ c.isResolved = true) ∧
    (c.isResolved = true ↔ c.firstPlaceholder? = none) ∧
    (c.firstPlaceholder? = none ↔ ∀ l, ConditionOf.HasLeaf l c →
      l.column.isPlaceholder = false) := by
  have hleaves (c : Condition) : c.isResolved = true ↔
      ∀ l, ConditionOf.HasLeaf l c → l.column.isPlaceholder = false := by
    rw [isResolved_iff, ConditionOf.columns_eq_leaves, List.forall_mem_map]
    exact forall_congr' fun l => imp_congr_left ConditionOf.hasLeaf_iff.symm
  have hnone : c.isResolved = true ↔ c.firstPlaceholder? = none := Option.isNone_iff_eq_none
  have hresolved := isResolved_resolve c s e
  refine ⟨(hleaves _).1 hresolved, ?_, ConditionOf.sameShape_map _ c,
    resolve_eq_self_iff.2 hresolved, resolve_eq_self_iff, hnone, hnone.symm.trans (hleaves c)⟩
  rw [columns_resolve]
  exact List.map_congr_left fun column _ => by cases column <;> rfl

end Condition
end SynonymLookup
