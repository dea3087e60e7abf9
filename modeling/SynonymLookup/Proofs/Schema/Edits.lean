import Mathlib.Data.List.Induction
import Mathlib.Data.List.Nodup
import SynonymLookup.Proofs.Store.Consistent

/-! Edits of a schema. A base field is kept in the list of its type, any other in the list of its
bundle. In each of the two lists a name stands once, and the last edit that concerns it there says
what is found under it. Neither list knows of the other: a bundle has a name twice exactly if edits
have left both lists with it. -/

namespace SynonymLookup
namespace Schema

/-- What becomes of one list of fields. -/
inductive Revision where
  | keep
  | put (f : Field)
  | drop (name : String)

namespace Revision

def apply : Revision → List Field → List Field
  | keep, l => l
  | put f, l => replaceAtEnd Field.name f l
  | drop name, l => l.filter fun f => f.name != name

/-- What is under a name afterwards, if the revision concerns the name. -/
def under (name : String) : Revision → Option (Option Field)
  | keep => none
  | put f => if f.name = name then some (some f) else none
  | drop name' => if name' = name then some none else none

def revised (revisions : List Revision) : List Field := revisions.foldl (fun l r => r.apply l) []

/-- What the last revision that concerns a name has left under it. -/
def remaining (revisions : List Revision) (name : String) : Option Field :=
  (revisions.reverse.findSome? (under name)).join

theorem find?_filter_ne (name name' : String) (l : List Field) :
    (l.filter fun f => f.name != name').find? (·.name == name) =
      if name' = name then none else l.find? (·.name == name) := by
  induction l with
  | nil => simp
  | cons f rest ih =>
    by_cases hf : f.name = name'
    · by_cases hname : name' = name <;> simp [hf, hname, ih]
    · have hkept : (f :: rest).filter (fun f => f.name != name') =
          f :: rest.filter fun f => f.name != name' := List.filter_cons_of_pos (by simpa using hf)
      rw [hkept]
      by_cases hname : f.name = name
      · have hother : name' ≠ name := fun h => hf (hname.trans h.symm)
        simp [hname, hother]
      · rw [List.find?_cons_of_neg (by simpa using hname),
          List.find?_cons_of_neg (by simpa using hname), ih]

theorem find?_apply (r : Revision) (l : List Field) (name : String) :
    (r.apply l).find? (·.name == name) = (r.under name).getD (l.find? (·.name == name)) := by
  cases r with
  | keep => rfl
  | put f =>
    rw [apply, replaceAtEnd, List.find?_append, find?_filter_ne, under]
    by_cases hname : f.name = name
    · simp [hname]
    · simp [hname]
  | drop name' =>
    rw [apply, find?_filter_ne, under]
    split <;> rfl

theorem nodup_apply (r : Revision) {l : List Field} (h : (l.map Field.name).Nodup) :
    ((r.apply l).map Field.name).Nodup := by
  cases r with
  | keep => exact h
  | put f => exact Store.nodup_map_replaceAtEnd h f
  | drop name => exact h.sublist (List.filter_sublist.map Field.name)

theorem revised_concat (revisions : List Revision) (r : Revision) :
    revised (revisions ++ [r]) = r.apply (revised revisions) := by
  simp [revised]

theorem remaining_concat (revisions : List Revision) (r : Revision) (name : String) :
    remaining (revisions ++ [r]) name = (r.under name).getD (remaining revisions name) := by
  simp only [remaining, List.reverse_append, List.reverse_singleton, List.singleton_append,
    List.findSome?_cons]
  cases r.under name <;> rfl

theorem find?_revised (revisions : List Revision) (name : String) :
    (revised revisions).find? (·.name == name) = remaining revisions name := by
  induction revisions using List.reverseRecOn with
  | nil => rfl
  | append_singleton revisions r ih => rw [revised_concat, remaining_concat, find?_apply, ih]

theorem nodup_revised (revisions : List Revision) : ((revised revisions).map Field.name).Nodup := by
  induction revisions using List.reverseRecOn with
  | nil => exact List.nodup_nil
  | append_singleton revisions r ih =>
    rw [revised_concat]
    exact r.nodup_apply ih

theorem put_of_mem_revised {revisions : List Revision} {f : Field} (h : f ∈ revised revisions) :
    put f ∈ revisions := by
  induction revisions using List.reverseRecOn with
  | nil => cases h
  | append_singleton revisions r ih =>
    rw [revised_concat] at h
    cases r with
    | keep => exact List.mem_append_left _ (ih h)
    | put g =>
      rcases List.mem_append.1 h with h | h
      · exact List.mem_append_left _ (ih (List.mem_filter.1 h).1)
      · rw [List.mem_singleton.1 h]
        exact List.mem_append_right _ List.mem_cons_self
    | drop name => exact List.mem_append_left _ (ih (List.mem_filter.1 h).1)

theorem mem_names_iff {l : List Field} {name : String} :
    name ∈ l.map Field.name ↔ l.find? (·.name == name) ≠ none := by
  simp [List.find?_eq_none]

end Revision

variable (s : Schema) (entityType bundle : String)

theorem baseFieldsOf_insertField (t b : String) (f : Field) :
    (s.insertField t b f).baseFieldsOf entityType =
      if f.base = true ∧ t = entityType then replaceAtEnd Field.name f (s.baseFieldsOf entityType)
      else s.baseFieldsOf entityType := by
  unfold insertField baseFieldsOf
  cases f.base with
  | false => simp
  | true => by_cases ht : t = entityType <;> simp [KeyMap.update, ht]

theorem ownFieldsOf_insertField (t b : String) (f : Field) :
    (s.insertField t b f).ownFieldsOf entityType bundle =
      if f.base = false ∧ t = entityType ∧ b = bundle then
        replaceAtEnd Field.name f (s.ownFieldsOf entityType bundle)
      else s.ownFieldsOf entityType bundle := by
  unfold insertField ownFieldsOf
  cases f.base with
  | true => simp
  | false =>
    by_cases ht : t = entityType
    · subst ht
      by_cases hb : b = bundle
      all_goals cases hm : s.bundleFields.get? t <;> simp [KeyMap.update, hb, hm]
    · simp [KeyMap.update, ht]

theorem baseFieldsOf_removeField (t b name : String) :
    (s.removeField t b name).baseFieldsOf entityType =
      if t = entityType then (s.baseFieldsOf entityType).filter (·.name != name)
      else s.baseFieldsOf entityType := by
  unfold removeField baseFieldsOf
  by_cases ht : t = entityType
  · subst ht
    cases hl : s.baseFields.get? t <;> simp [hl]
  · cases s.baseFields.get? t <;> simp [ht]

theorem ownFieldsOf_removeField (t b name : String) :
    (s.removeField t b name).ownFieldsOf entityType bundle =
      if t = entityType ∧ b = bundle then (s.ownFieldsOf entityType bundle).filter (·.name != name)
      else s.ownFieldsOf entityType bundle := by
  unfold removeField ownFieldsOf
  by_cases ht : t = entityType
  · subst ht
    cases hm : s.bundleFields.get? t with
    | none => simp [hm]
    | some m =>
      by_cases hb : b = bundle
      · subst hb
        cases hl : m.get? b <;> simp [hm, hl]
      · cases hl : m.get? b <;> simp [hm, hl, hb]
  · cases s.bundleFields.get? t with
    | none => simp [ht]
    | some m => cases hl : m.get? b <;> simp [ht, hl]

theorem mem_fieldsOf_of_insertField {t b : String} {f g : Field}
    (h : g ∈ (s.insertField t b f).fieldsOf entityType bundle) :
    g = f ∨ g ∈ s.fieldsOf entityType bundle := by
  have hput {l : List Field} (hg : g ∈ replaceAtEnd Field.name f l) : g = f ∨ g ∈ l := by
    rcases List.mem_append.1 hg with hg | hg
    · exact .inr (List.mem_filter.1 hg).1
    · exact .inl (List.mem_singleton.1 hg)
  rw [fieldsOf, List.mem_append, baseFieldsOf_insertField, ownFieldsOf_insertField] at h
  rw [fieldsOf, List.mem_append]
  rcases h with h | h
  · split at h
    · exact (hput h).imp_right .inl
    · exact .inr (.inl h)
  · split at h
    · exact (hput h).imp_right .inr
    · exact .inr (.inr h)

/-- A field that was put in is found, unless it is no base field and stands behind
one of its name. -/
theorem field?_insertField (f : Field) :
    (s.insertField entityType bundle f).field? entityType bundle f.name =
      if f.base = true then some f
      else ((s.baseFieldsOf entityType).find? (·.name == f.name)).or (some f) := by
  have hput (l : List Field) : (replaceAtEnd Field.name f l).find? (·.name == f.name) = some f := by
    have h := (Revision.put f).find?_apply l f.name
    rw [Revision.under, if_pos rfl] at h
    exact h
  rw [field?, fieldsOf, List.find?_append, baseFieldsOf_insertField, ownFieldsOf_insertField]
  cases f.base with
  | true => simp [hput]
  | false => simp [hput]

theorem field?_removeField (name : String) :
    (s.removeField entityType bundle name).field? entityType bundle name = none := by
  have hdrop (l : List Field) : (l.filter (·.name != name)).find? (·.name == name) = none := by
    rw [Revision.find?_filter_ne, if_pos rfl]
  rw [field?, fieldsOf, List.find?_append, baseFieldsOf_removeField, ownFieldsOf_removeField]
  simp [hdrop]

inductive Edit where
  | insertEntityType (t : EntityType)
  | insertBundle (entityType : String) (b : Bundle)
  | insertField (entityType bundle : String) (f : Field)
  | removeField (entityType bundle name : String)

namespace Edit

def apply : Edit → Schema → Schema
  | insertEntityType t, s => s.insertEntityType t
  | insertBundle entityType b, s => s.insertBundle entityType b
  | insertField entityType bundle f, s => s.insertField entityType bundle f
  | removeField entityType bundle name, s => s.removeField entityType bundle name

def onBase (entityType : String) : Edit → Revision
  | insertField t _ f => if f.base = true ∧ t = entityType then .put f else .keep
  | removeField t _ name => if t = entityType then .drop name else .keep
  | _ => .keep

def onOwn (entityType bundle : String) : Edit → Revision
  | insertField t b f =>
    if f.base = false ∧ t = entityType ∧ b = bundle then .put f else .keep
  | removeField t b name => if t = entityType ∧ b = bundle then .drop name else .keep
  | _ => .keep

theorem baseFieldsOf_apply (e : Edit) :
    (e.apply s).baseFieldsOf entityType = (e.onBase entityType).apply
      (s.baseFieldsOf entityType) := by
  cases e with
  | insertEntityType t => rfl
  | insertBundle t b => rfl
  | insertField t b f =>
    rw [apply, baseFieldsOf_insertField, onBase]
    split <;> rfl
  | removeField t b name =>
    rw [apply, baseFieldsOf_removeField, onBase]
    split <;> rfl

theorem ownFieldsOf_apply (e : Edit) :
    (e.apply s).ownFieldsOf entityType bundle =
      (e.onOwn entityType bundle).apply (s.ownFieldsOf entityType bundle) := by
  cases e with
  | insertEntityType t => rfl
  | insertBundle t b => rfl
  | insertField t b f =>
    rw [apply, ownFieldsOf_insertField, onOwn]
    split <;> rfl
  | removeField t b name =>
    rw [apply, ownFieldsOf_removeField, onOwn]
    split <;> rfl

end Edit

def edited (edits : List Edit) : Schema := edits.foldl (fun s e => e.apply s) {}

def remainingBase (edits : List Edit) (name : String) : Option Field :=
  Revision.remaining (edits.map (Edit.onBase entityType)) name

def remainingOwn (edits : List Edit) (name : String) : Option Field :=
  Revision.remaining (edits.map (Edit.onOwn entityType bundle)) name

variable (edits : List Edit)

theorem edited_concat (e : Edit) : edited (edits ++ [e]) = e.apply (edited edits) := by
  simp [edited]

theorem baseFieldsOf_edited : (edited edits).baseFieldsOf entityType =
    Revision.revised (edits.map (Edit.onBase entityType)) := by
  induction edits using List.reverseRecOn with
  | nil => rfl
  | append_singleton edits e ih =>
    rw [edited_concat, Edit.baseFieldsOf_apply, ih, List.map_append, List.map_singleton,
      Revision.revised_concat]

theorem ownFieldsOf_edited : (edited edits).ownFieldsOf entityType bundle =
    Revision.revised (edits.map (Edit.onOwn entityType bundle)) := by
  induction edits using List.reverseRecOn with
  | nil => rfl
  | append_singleton edits e ih =>
    rw [edited_concat, Edit.ownFieldsOf_apply, ih, List.map_append, List.map_singleton,
      Revision.revised_concat]

theorem field?_edited (name : String) : (edited edits).field? entityType bundle name =
    (remainingBase entityType edits name).or (remainingOwn entityType bundle edits name) := by
  rw [field?, fieldsOf, List.find?_append, baseFieldsOf_edited, ownFieldsOf_edited,
    Revision.find?_revised, Revision.find?_revised]
  rfl

theorem base_of_onBase {e : Edit} {f : Field} (h : e.onBase entityType = .put f) :
    f.base = true := by
  cases e with
  | insertEntityType t => cases h
  | insertBundle t b => cases h
  | insertField t b g =>
    rw [Edit.onBase] at h
    split at h
    · rename_i hg
      cases h
      exact hg.1
    · cases h
  | removeField t b name =>
    rw [Edit.onBase] at h
    split at h <;> cases h

theorem base_of_remainingBase {name : String} {f : Field}
    (h : remainingBase entityType edits name = some f) : f.base = true := by
  rw [remainingBase, ← Revision.find?_revised] at h
  obtain ⟨e, -, he⟩ := List.mem_map.1 (Revision.put_of_mem_revised (List.mem_of_find?_eq_some h))
  exact base_of_onBase entityType he

theorem find?_baseFieldsOf_edited (name : String) :
    ((edited edits).baseFieldsOf entityType).find? (·.name == name) =
      remainingBase entityType edits name := by
  rw [baseFieldsOf_edited, Revision.find?_revised]
  rfl

theorem find?_ownFieldsOf_edited (name : String) :
    ((edited edits).ownFieldsOf entityType bundle).find? (·.name == name) =
      remainingOwn entityType bundle edits name := by
  rw [ownFieldsOf_edited, Revision.find?_revised]
  rfl

/-- Each of the two lists has a name once, so only a name in both stands twice. -/
theorem names_nodup_iff :
    (((edited edits).fieldsOf entityType bundle).map Field.name).Nodup ↔
      ∀ name, remainingBase entityType edits name = none ∨
        remainingOwn entityType bundle edits name = none := by
  have hbase : (((edited edits).baseFieldsOf entityType).map Field.name).Nodup := by
    rw [baseFieldsOf_edited]
    exact Revision.nodup_revised _
  have hown : (((edited edits).ownFieldsOf entityType bundle).map Field.name).Nodup := by
    rw [ownFieldsOf_edited]
    exact Revision.nodup_revised _
  rw [fieldsOf, List.map_append, List.nodup_append']
  simp only [hbase, hown, true_and, List.disjoint_left, Revision.mem_names_iff,
    find?_baseFieldsOf_edited, find?_ownFieldsOf_edited]
  refine forall_congr' fun name => ?_
  cases remainingBase entityType edits name <;> simp

/-- After any edits, what is found under a name in a bundle is the base field left there, else
the bundle's own. So no name stands twice exactly if none is left with both. A field that was
just put in is found unless it is no base field and one is left under its name, and a field that
was just removed is never found. -/
theorem names_nodup_iff_remaining :
    (∀ name, (edited edits).field? entityType bundle name =
      (remainingBase entityType edits name).or (remainingOwn entityType bundle edits name)) ∧
    ((((edited edits).fieldsOf entityType bundle).map Field.name).Nodup ↔
      ∀ name, remainingBase entityType edits name = none ∨
        remainingOwn entityType bundle edits name = none) ∧
    (∀ f : Field,
      ((edited edits).insertField entityType bundle f).field? entityType bundle f.name = some f ↔
        f.base = true ∨ remainingBase entityType edits f.name = none) ∧
    ∀ name,
      ((edited edits).removeField entityType bundle name).field? entityType bundle name = none := by
  refine ⟨field?_edited entityType bundle edits,
    names_nodup_iff entityType bundle edits, fun f => ?_, fun name => field?_removeField _ _ _ name⟩
  rw [field?_insertField, find?_baseFieldsOf_edited]
  cases hbase : f.base with
  | true => simp
  | false =>
    cases hfound : remainingBase entityType edits f.name with
    | none => simp
    | some g =>
      -- what stands before the field is a base field, so it is another
      have hg := base_of_remainingBase entityType edits hfound
      have hne : g ≠ f := by
        rintro rfl
        rw [hbase] at hg
        cases hg
      simp [hne]

def aliasField (base : Bool) : Field := { name := "alias", fieldType := "string", base }

/-- A field is put in beside the base field of its name: the name stands twice, and
the base field is found. -/
theorem own_field_behind_base_field :
    let edits : List Edit :=
      [.insertField "node" "article" (aliasField true),
        .insertField "node" "article" (aliasField false)]
    ¬ (((edited edits).fieldsOf "node" "article").map Field.name).Nodup ∧
      (edited edits).field? "node" "article" "alias" = some (aliasField true) ∧
      aliasField true ≠ aliasField false := by
  decide

end Schema
end SynonymLookup
