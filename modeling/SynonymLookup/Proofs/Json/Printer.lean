import Mathlib.Data.String.Basic
import SynonymLookup.Json.Printer
import SynonymLookup.Json.Reader
import SynonymLookup.Proofs.Provider.PluginId

/-! Printed values. A quoted text is read as it was written, so where one text, one list of texts or
one number ends is told by what is printed, whatever follows. -/

namespace SynonymLookup
namespace Json

open Reader

theorem hexUnit?_hexDigit : ∀ n < 0x20,
    hexUnit? '0' '0' (hexDigit (n / 16)) (hexDigit (n % 16)) = some n := by decide

theorem stringTail?_escapeChar (c : Char) (cs : List Char) :
    stringTail? (escapeChar c ++ cs) = (stringTail? cs).map fun p => (c :: p.1, p.2) := by
  by_cases hquote : c = '"'
  · subst hquote; simp [escapeChar, stringTail?, escape?]
  by_cases hslash : c = '\\'
  · subst hslash; simp [escapeChar, stringTail?, escape?]
  by_cases hn : c = '\n'
  · subst hn; simp [escapeChar, stringTail?, escape?]
  by_cases hr : c = '\r'
  · subst hr; simp [escapeChar, stringTail?, escape?]
  by_cases ht : c = '\t'
  · subst ht; simp [escapeChar, stringTail?, escape?]
  by_cases hb : c = '\x08'
  · subst hb; simp [escapeChar, stringTail?, escape?]
  by_cases hf : c = '\x0c'
  · subst hf; simp [escapeChar, stringTail?, escape?]
  by_cases hcontrol : c.toNat < 0x20
  · -- four digits, none of which makes half of a pair
    have hlow : isLowHalf c.toNat = false := by simp [isLowHalf]; omega
    have hhigh : isHighHalf c.toNat = false := by simp [isHighHalf]; omega
    simp [escapeChar, hquote, hslash, hn, hr, ht, hb, hf, hcontrol, stringTail?,
      hexUnit?_hexDigit c.toNat hcontrol, hlow, hhigh]
  · simp [escapeChar, hquote, hslash, hn, hr, ht, hb, hf, hcontrol, stringTail?]

theorem stringTail?_quoted (s cs : List Char) :
    stringTail? (s.flatMap escapeChar ++ '"' :: cs) = some (s, cs) := by
  induction s with
  | nil => simp [stringTail?]
  | cons c s ih =>
    rw [List.flatMap_cons, List.append_assoc, stringTail?_escapeChar, ih]
    rfl

theorem toList_quoted (s : String) :
    (quoted s).toList = '"' :: (s.toList.flatMap escapeChar ++ ['"']) := by simp [quoted]

theorem quoted_append_inj {s t : String} {r r' : List Char}
    (h : (quoted s).toList ++ r = (quoted t).toList ++ r') : s = t ∧ r = r' := by
  simp only [toList_quoted, List.cons_append, List.append_assoc, List.nil_append,
    List.cons.injEq, true_and] at h
  have hread := stringTail?_quoted s.toList r
  rw [h, stringTail?_quoted, Option.some.injEq, Prod.mk.injEq] at hread
  exact ⟨String.toList_inj.1 hread.1.symm, hread.2.symm⟩

theorem compactItems_eq_map (items : List Json) : compactItems items = items.map compact := by
  induction items with
  | nil => rfl
  | cons item rest ih => rw [compactItems, ih, List.map_cons]

theorem compactFields_eq_map (fields : List (String × Json)) :
    compactFields fields = fields.map fun f => quoted f.1 ++ ":" ++ f.2.compact := by
  induction fields with
  | nil => rfl
  | cons f rest ih => rw [compactFields, ih, List.map_cons]

theorem compact_object (fields : List (String × Json)) : (object fields).compact =
    "\x7b" ++ ",".intercalate (fields.map fun f => quoted f.1 ++ ":" ++ f.2.compact) ++ "\x7d" := by
  rw [compact, compactFields_eq_map]

def furtherTexts (l : List String) : List Char := l.flatMap fun s => ',' :: (quoted s).toList

theorem furtherTexts_append_inj {l l' : List String} {r r' : List Char}
    (h : furtherTexts l ++ ']' :: r = furtherTexts l' ++ ']' :: r') : l = l' ∧ r = r' := by
  induction l generalizing l' with
  | nil =>
    cases l' with
    | nil => simpa [furtherTexts] using h
    | cons t l' => simp [furtherTexts] at h
  | cons s l ih =>
    cases l' with
    | nil => simp [furtherTexts] at h
    | cons t l' =>
      simp only [furtherTexts, List.flatMap_cons, List.cons_append, List.append_assoc,
        List.cons.injEq, true_and] at h
      obtain ⟨rfl, hrest⟩ := quoted_append_inj h
      obtain ⟨rfl, rfl⟩ := ih hrest
      exact ⟨rfl, rfl⟩

theorem intercalate_comma_cons (s : String) (l : List String) :
    [','].intercalate ((s :: l).map fun t => (quoted t).toList) =
      (quoted s).toList ++ furtherTexts l := by
  induction l generalizing s with
  | nil => simp [furtherTexts]
  | cons t l ih =>
    have hrest := ih t
    simp only [List.map_cons] at hrest ⊢
    rw [List.intercalate_cons_cons, hrest]
    simp [furtherTexts]

theorem toList_compact_ofStrings (l : List String) :
    (ofStrings l).compact.toList =
      '[' :: ([','].intercalate (l.map fun t => (quoted t).toList) ++ [']']) := by
  have htexts : (l.map string).map compact = l.map quoted := by
    rw [List.map_map]
    exact List.map_congr_left fun s _ => by rw [Function.comp_apply, compact]
  have hitems : (l.map quoted).map String.toList = l.map fun t => (quoted t).toList :=
    List.map_map
  rw [ofStrings, compact, compactItems_eq_map, htexts]
  simp [String.toList_intercalate, hitems]

theorem ofStrings_append_inj {l l' : List String} {r r' : List Char}
    (h : (ofStrings l).compact.toList ++ r = (ofStrings l').compact.toList ++ r') :
    l = l' ∧ r = r' := by
  simp only [toList_compact_ofStrings, List.cons_append, List.append_assoc, List.nil_append,
    List.cons.injEq, true_and] at h
  cases l with
  | nil =>
    cases l' with
    | nil => simpa using h
    | cons t l' =>
      rw [intercalate_comma_cons] at h
      simp [toList_quoted] at h
  | cons s l =>
    cases l' with
    | nil =>
      rw [intercalate_comma_cons] at h
      simp [toList_quoted] at h
    | cons t l' =>
      rw [intercalate_comma_cons, intercalate_comma_cons, List.append_assoc, List.append_assoc] at h
      obtain ⟨rfl, hrest⟩ := quoted_append_inj h
      obtain ⟨rfl, rfl⟩ := furtherTexts_append_inj hrest
      exact ⟨rfl, rfl⟩

theorem toList_compact_ofNat (n : Nat) : (ofNat n).compact.toList = Nat.toDigits 10 n := by
  rw [ofNat, compact, Number.text, Int.toString_eq_repr, Int.repr_eq_if]
  simp [Nat.toList_repr]

/-- A number ends at the first comma. -/
theorem ofNat_append_inj {m n : Nat} {r r' : List Char}
    (h : (ofNat m).compact.toList ++ ',' :: r = (ofNat n).compact.toList ++ ',' :: r') :
    m = n ∧ r = r' := by
  have hdigits (k : Nat) : ',' ∉ (ofNat k).compact.toList := by
    rw [toList_compact_ofNat]
    intro hmem
    exact absurd (Nat.isDigit_of_mem_toDigits (by decide) (by decide) hmem) (by decide)
  obtain ⟨hnumber, hrest⟩ := Text.append_separator_inj (hdigits m) (hdigits n) h
  rw [toList_compact_ofNat, toList_compact_ofNat] at hnumber
  refine ⟨?_, hrest⟩
  rw [← Nat.ofDigitChars_ten_toDigits (n := m), hnumber, Nat.ofDigitChars_ten_toDigits]

end Json
end SynonymLookup
