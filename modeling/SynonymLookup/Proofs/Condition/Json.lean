import Mathlib.Data.List.Basic
import SynonymLookup.Condition.Json
import SynonymLookup.Proofs.Condition.Meaning
import SynonymLookup.Proofs.KeyMap

/-! The written form of conditions. A tree is read as it was written; what is read is written as it
stood, but for the fields of its leaves; and an object that is not of one of the three forms is
refused wherever it stands. -/

namespace SynonymLookup

namespace KeyMap

variable {α : Type}

theorem findEntry_reverse {key : String} {l : List (String × α)}
    (h : l.countP (·.1 == key) ≤ 1) : findEntry key l.reverse = findEntry key l := by
  induction l with
  | nil => rfl
  | cons e rest ih =>
    rw [List.reverse_cons, findEntry_append]
    by_cases hkey : e.1 = key
    · have hrest : ∀ d ∈ rest, d.1 ≠ key := by
        have hcount : rest.countP (·.1 == key) = 0 := by simpa [hkey] using h
        simpa using List.countP_eq_zero.1 hcount
      have hnone : findEntry key rest.reverse = none :=
        findEntry_eq_none_iff.2 fun d hd => hrest d (List.mem_reverse.1 hd)
      simp [findEntry, hkey, hnone]
    · have hcount : rest.countP (·.1 == key) ≤ 1 := by simpa [List.countP_cons, hkey] using h
      simp [findEntry, hkey, ih hcount]

theorem findEntry_filter (p : String → Bool) (key : String) (l : List (String × α)) :
    findEntry key (l.filter fun e => p e.1) = if p key then findEntry key l else none := by
  induction l with
  | nil => simp [findEntry]
  | cons e rest ih =>
    by_cases hkey : e.1 = key
    · subst hkey
      cases hp : p e.1 <;> simp [findEntry, hp, ih]
    · cases hp : p e.1 <;> simp [findEntry, hp, ih, hkey]

end KeyMap

namespace Json

/-- A constant that is written as an object, its name on a null. -/
def isKeyedConstant : Json → Bool
  | object [(_, null)] => true
  | _ => false

theorem eq_string_of_constant? {j : Json} {name : String} (hplain : j.isKeyedConstant = false)
    (h : j.constant? = some name) : j = .string name := by
  unfold constant? at h
  split at h
  · cases h
    rfl
  · cases hplain
  · cases h

end Json

namespace Column

theorem toJson_of_ofJson? {j : Json} {c : Column} (hplain : j.isKeyedConstant = false)
    (h : ofJson? j = some c) : c.toJson = j := by
  unfold ofJson? at h
  split at h
  · cases h
    rfl
  · split at h
    · rename_i hname
      cases h
      exact (Json.eq_string_of_constant? hplain hname).symm
    · rename_i hname
      cases h
      exact (Json.eq_string_of_constant? hplain hname).symm
    · cases h

end Column

namespace Operator

theorem toJson_of_ofJson? {j : Json} {o : Operator} (hplain : j.isKeyedConstant = false)
    (h : ofJson? j = some o) : o.toJson = j := by
  obtain ⟨name, hname, ho⟩ := Option.bind_eq_some_iff.1 h
  have htext : o.text = name := by simpa using List.find?_some ho
  rw [toJson, htext, Json.eq_string_of_constant? hplain hname]

end Operator

namespace Comparison

def fieldNames : List String := ["column", "operator", "value"]

/-- A leaf with null for a missing value, and without the fields that a leaf does not have. -/
def tidy : Json → Json
  | .object fields => .ofFields (("value", .null) :: fields.filter fun f => fieldNames.contains f.1)
  | j => j

/-- A leaf is no list of values, and neither its column nor its operator is a constant written as an
object. -/
def isConventional : Json → Bool
  | .array _ => false
  | .object fields =>
    fields.all fun f => !(["column", "operator"].contains f.1 && f.2.isKeyedConstant)
  | _ => true

/-- A leaf that is read has a column and an operator, and no known field twice. -/
theorem exists_of_ofJson? {fields : List (String × Json)} {c : Comparison}
    (h : ofJson? (.object fields) = some c) :
    (∀ name ∈ fieldNames, fields.countP (·.1 == name) ≤ 1) ∧
      (∃ column, KeyMap.findEntry "column" fields = some column ∧
        Column.ofJson? column = some c.column) ∧
      (∃ operator, KeyMap.findEntry "operator" fields = some operator ∧
        Operator.ofJson? operator = some c.operator) ∧
      c.value = (KeyMap.findEntry "value" fields).getD .null := by
  obtain ⟨r, hr, h⟩ := Option.bind_eq_some_iff.1 h
  obtain ⟨column, hcolumn, h⟩ := Option.bind_eq_some_iff.1 h
  obtain ⟨operator, hoperator, h⟩ := Option.bind_eq_some_iff.1 h
  simp only [Json.record?, Json.openRecord?, Option.ite_none_right_eq_some, Option.some.injEq] at hr
  obtain ⟨hcount, rfl⟩ := hr
  cases h
  exact ⟨by simpa [fieldNames] using hcount, Option.bind_eq_some_iff.1 hcolumn,
    Option.bind_eq_some_iff.1 hoperator, rfl⟩

theorem get?_tidy {fields : List (String × Json)}
    (h : ∀ name ∈ fieldNames, fields.countP (·.1 == name) ≤ 1) (name : String) :
    (KeyMap.ofList (("value", .null) :: fields.filter fun f => fieldNames.contains f.1)).get? name =
      if name ∈ fieldNames then
        (KeyMap.findEntry name fields).or (if name = "value" then some .null else none)
      else none := by
  rw [KeyMap.get?_ofList, List.reverse_cons, KeyMap.findEntry_append, ← List.filter_reverse,
    KeyMap.findEntry_filter]
  by_cases hname : name ∈ fieldNames
  · simp [hname, KeyMap.findEntry_reverse (h name hname), KeyMap.findEntry, eq_comm]
  · have hvalue : "value" ≠ name := by
      rintro rfl
      exact hname (by decide)
    simp [hname, KeyMap.findEntry, hvalue]

theorem tidy_object {fields : List (String × Json)} {column operator : Json}
    (h : ∀ name ∈ fieldNames, fields.countP (·.1 == name) ≤ 1)
    (hcolumn : KeyMap.findEntry "column" fields = some column)
    (hoperator : KeyMap.findEntry "operator" fields = some operator) :
    tidy (.object fields) = .object [("column", column), ("operator", operator),
      ("value", (KeyMap.findEntry "value" fields).getD .null)] := by
  have hnames : fieldNames.Pairwise (· < ·) := by decide
  let m : KeyMap Json :=
    ⟨[("column", column), ("operator", operator),
      ("value", (KeyMap.findEntry "value" fields).getD .null)],
      (List.pairwise_map (f := Prod.fst)).1 hnames⟩
  have hm :
      KeyMap.ofList (("value", .null) :: fields.filter fun f => fieldNames.contains f.1) = m := by
    refine KeyMap.ext_get? fun name => ?_
    rw [get?_tidy h]
    by_cases hname : name ∈ fieldNames
    · rw [if_pos hname]
      simp only [fieldNames, List.mem_cons, List.not_mem_nil, or_false] at hname
      rcases hname with rfl | rfl | rfl
      · simp [hcolumn, m, KeyMap.get?, KeyMap.findEntry]
      · simp [hoperator, m, KeyMap.get?, KeyMap.findEntry]
      · cases hvalue : KeyMap.findEntry "value" fields <;>
          simp [hvalue, m, KeyMap.get?, KeyMap.findEntry]
    · rw [if_neg hname]
      simp only [fieldNames, List.mem_cons, List.not_mem_nil, or_false, not_or] at hname
      simp [m, KeyMap.get?, KeyMap.findEntry, Ne.symm hname.1, Ne.symm hname.2.1,
        Ne.symm hname.2.2]
  rw [tidy, Json.ofFields, hm]

theorem toJson_of_ofJson? {j : Json} {c : Comparison} (hplain : isConventional j = true)
    (h : ofJson? j = some c) : c.toJson = tidy j := by
  cases j with
  | array items => cases hplain
  | object fields =>
    obtain ⟨hcount, ⟨column, hcolumn, hc⟩, ⟨operator, hoperator, ho⟩, hvalue⟩ := exists_of_ofJson? h
    have hplain : ∀ f ∈ fields, f.1 = "column" ∨ f.1 = "operator" →
        f.2.isKeyedConstant = false := by
      intro f hf hname
      simpa [isConventional, hname] using List.all_eq_true.1 hplain f hf
    have hc := Column.toJson_of_ofJson? (hplain _ (KeyMap.mem_of_findEntry hcolumn) (.inl rfl)) hc
    have ho := Operator.toJson_of_ofJson?
      (hplain _ (KeyMap.mem_of_findEntry hoperator) (.inr rfl)) ho
    rw [toJson, hc, ho, hvalue, tidy_object hcount hcolumn hoperator]
  | _ => cases h

end Comparison

namespace Condition

mutual

def tidy : Json → Json
  | .object [("leaf", c)] => .object [("leaf", Comparison.tidy c)]
  | .object [("and", .array items)] => .object [("and", .array (tidyItems items))]
  | .object [("or", .array items)] => .object [("or", .array (tidyItems items))]
  | j => j

def tidyItems : List Json → List Json
  | [] => []
  | item :: rest => tidy item :: tidyItems rest

end

mutual

def isConventional : Json → Bool
  | .object [("leaf", c)] => Comparison.isConventional c
  | .object [("and", .array items)] => areConventional items
  | .object [("or", .array items)] => areConventional items
  | _ => true

def areConventional : List Json → Bool
  | [] => true
  | item :: rest => isConventional item && areConventional rest

end

theorem toJson_of_ofJson? (j : Json) :
    ∀ c, isConventional j = true → ofJson? j = some c → toJson c = tidy j := by
  refine ofJson?.induct
    (fun j => ∀ c, isConventional j = true → ofJson? j = some c → toJson c = tidy j)
    (fun items => ∀ cs, areConventional items = true → ofItems? items = some cs →
      toItems cs = tidyItems items) ?leaf ?and ?or ?other ?nil ?cons j
  case leaf =>
    intro leaf c hplain h
    rw [isConventional] at hplain
    rw [ofJson?] at h
    obtain ⟨l, hl, rfl⟩ := Option.map_eq_some_iff.1 h
    rw [toJson, tidy, Comparison.toJson_of_ofJson? hplain hl]
  case and =>
    intro items ih c hplain h
    rw [isConventional] at hplain
    rw [ofJson?] at h
    obtain ⟨cs, hcs, rfl⟩ := Option.map_eq_some_iff.1 h
    rw [toJson, tidy, ih cs hplain hcs]
  case or =>
    intro items ih c hplain h
    rw [isConventional] at hplain
    rw [ofJson?] at h
    obtain ⟨cs, hcs, rfl⟩ := Option.map_eq_some_iff.1 h
    rw [toJson, tidy, ih cs hplain hcs]
  case other =>
    intro j hleaf hand hor c _ h
    rw [ofJson?] at h
    · cases h
    · exact hleaf
    · exact hand
    · exact hor
  case nil =>
    intro cs _ h
    cases h
    rfl
  case cons =>
    intro item rest hitem hrest cs hplain h
    rw [areConventional, Bool.and_eq_true] at hplain
    rw [ofItems?] at h
    obtain ⟨c, hc, h⟩ := Option.bind_eq_some_iff.1 h
    obtain ⟨ds, hds, h⟩ := Option.bind_eq_some_iff.1 h
    cases h
    rw [toItems, tidyItems, hitem c hplain.1 hc, hrest ds hplain.2 hds]

theorem ofItems?_toItems {cs : List Condition} (h : ∀ c ∈ cs, ofJson? (toJson c) = some c) :
    ofItems? (toItems cs) = some cs := by
  induction cs with
  | nil => rfl
  | cons c rest ih =>
    have hrest := ih fun d hd => h d (List.mem_cons_of_mem _ hd)
    rw [toItems, ofItems?, h c List.mem_cons_self, hrest]
    rfl

theorem ofJson?_toJson (c : Condition) : ofJson? (toJson c) = some c := by
  induction c using ConditionOf.byChildren with
  | leaf c => rw [toJson, ofJson?, Comparison.ofJson?_toJson, Option.map_some]
  | and children ih => rw [toJson, ofJson?, ofItems?_toItems ih, Option.map_some]
  | or children ih => rw [toJson, ofJson?, ofItems?_toItems ih, Option.map_some]

/-- What stands in a value at a place where a condition is read. -/
inductive Part : Json → Json → Prop
  | whole (j : Json) : Part j j
  | and {items : List Json} {item part : Json} : item ∈ items → Part item part →
      Part (.object [("and", .array items)]) part
  | or {items : List Json} {item part : Json} : item ∈ items → Part item part →
      Part (.object [("or", .array items)]) part

theorem ofItems?_eq_none {items : List Json} {item : Json} (hitem : item ∈ items)
    (h : ofJson? item = none) : ofItems? items = none := by
  induction items with
  | nil => cases hitem
  | cons first rest ih =>
    rw [ofItems?]
    rcases List.mem_cons.1 hitem with rfl | hitem
    · rw [h]
      rfl
    · cases hfirst : ofJson? first with
      | none => rfl
      | some c =>
        rw [ih hitem]
        rfl

theorem ofJson?_eq_none_of_part {j part : Json} (h : Part j part) (hpart : ofJson? part = none) :
    ofJson? j = none := by
  induction h with
  | whole j => exact hpart
  | and hitem _ ih => rw [ofJson?, ofItems?_eq_none hitem (ih hpart), Option.map_none]
  | or hitem _ ih => rw [ofJson?, ofItems?_eq_none hitem (ih hpart), Option.map_none]

def formNames : List String := ["leaf", "and", "or"]

theorem ofJson?_object_eq_none {fields : List (String × Json)}
    (h : ∀ name value, fields = [(name, value)] → name ∉ formNames) :
    ofJson? (.object fields) = none := by
  rw [ofJson?]
  · intro c hc
    cases hc
    exact h _ _ rfl (by decide)
  · intro items hitems
    cases hitems
    exact h _ _ rfl (by decide)
  · intro items hitems
    cases hitems
    exact h _ _ rfl (by decide)

/-- Writing and reading lose nothing: every tree is read as it was written; whatever is read
is written as it stood, with null for the value that a leaf does not give and without the
fields that no leaf has; and an object without fields, with several, or with one of another
name is refused at every depth. -/
theorem json_lossless :
    (∀ c : Condition, ofJson? (toJson c) = some c) ∧
    (∀ (j : Json) (c : Condition), isConventional j = true → ofJson? j = some c →
      toJson c = tidy j) ∧
    ∀ (j : Json) (fields : List (String × Json)), Part j (.object fields) →
      (∀ name value, fields = [(name, value)] → name ∉ formNames) → ofJson? j = none :=
  ⟨ofJson?_toJson, toJson_of_ofJson?,
    fun _ _ hpart hfields => ofJson?_eq_none_of_part hpart (ofJson?_object_eq_none hfields)⟩

def unsetStatus : Json :=
  .object [("leaf", .object [("column", .object [("named", .string "status")]),
  ("note", .object [("by", .null)]), ("operator", .string "IS NULL")])]

theorem json_lossless_status :
    (ofJson? (toJson (.or [onColumn "status" .isNull .null])) =
      some (.or [onColumn "status" .isNull .null])) ∧
    (isConventional (.object [("or", .array [unsetStatus])]) = true ∧
      ofJson? (.object [("or", .array [unsetStatus])]) =
        some (.or [onColumn "status" .isNull .null]) ∧
      toJson (.or [onColumn "status" .isNull .null]) =
        .object [("or", .array [.object [("leaf", .object [
          ("column", .object [("named", .string "status")]), ("operator", .string "IS NULL"),
          ("value", .null)])]])]) ∧
    (Part (.object [("and", .array [unsetStatus, .object []])]) (.object []) ∧
      ofJson? (.object [("and", .array [unsetStatus, .object []])]) = none) :=
  have hpart : Part (.object [("and", .array [unsetStatus, .object []])]) (.object []) :=
    .and (List.mem_cons_of_mem _ List.mem_cons_self) (.whole _)
  ⟨json_lossless.1 _,
    ⟨rfl, rfl, json_lossless.2.1 (.object [("or", .array [unsetStatus])]) _ rfl rfl⟩, hpart,
    json_lossless.2.2 _ _ hpart fun _ _ hfields => nomatch hfields⟩

end Condition

end SynonymLookup
