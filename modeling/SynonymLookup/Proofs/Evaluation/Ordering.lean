import Mathlib.Data.String.Basic
import SynonymLookup.Proofs.Decimal.Numeral
import SynonymLookup.Proofs.Evaluation
import SynonymLookup.Proofs.Text.Lowercase

/-! What `<` puts in order. Numbers stand in one order and texts in another, and which of the
two decides hangs on the pair; the one does not go over into the other where two numbers
stand differently as texts. -/

namespace SynonymLookup

namespace Text

theorem lowercase_append_space (s : String) : lowercase (s ++ " ") = lowercase s ++ " " := by
  have hafter : casedBefore false [' '] = false := by decide +kernel
  have hspace (before : Bool) : lowerWithin before false [' '] = [' '] := by
    cases before <;> decide +kernel
  rw [← String.toList_inj, toList_lowercase, String.toList_append, String.toList_append,
    toList_lowercase, show (" " : String).toList = [' '] from rfl, lowerWithin_append,
    hafter, hspace]

theorem lowerChar_of_isVisible {c : Char} (h : Binary64.isVisible c = true) :
    lowerChar c = [c.toLower] ∧ Binary64.isVisible c.toLower = true := by
  have hascii : isAscii c = true := by
    rw [Binary64.isVisible, Bool.and_eq_true] at h
    exact h.2
  exact ⟨if_pos hascii, of_isAscii
    (p := fun c => Binary64.isVisible c = true → Binary64.isVisible c.toLower = true)
      (by decide) hascii h⟩

theorem isVisible_lowerWithin {cs : List Char} (h : cs.all Binary64.isVisible = true)
    (before after : Bool) : (lowerWithin before after cs).all Binary64.isVisible = true := by
  induction cs generalizing before with
  | nil => rfl
  | cons c cs ih =>
    rw [List.all_cons, Bool.and_eq_true] at h
    obtain ⟨hlower, hvisible⟩ := lowerChar_of_isVisible h.1
    have hsigma : c ≠ 'Σ' := by
      rintro rfl
      exact absurd h.1 (by decide)
    rw [lowerWithin, if_neg hsigma, hlower, List.singleton_append, List.all_cons, hvisible, ih h.2]
    rfl

/-- A space behind a text keeps it below every text without spaces that it was below. -/
theorem append_space_lt {l m : List Char} (h : l < m) (hm : m.all Binary64.isVisible = true) :
    l ++ [' '] < m := by
  induction l generalizing m with
  | nil =>
    cases m with
    | nil => exact absurd h (lt_irrefl _)
    | cons d m =>
      have hd : 0x20 < d.toNat := by
        simp only [List.all_cons, Binary64.isVisible, Bool.and_eq_true, decide_eq_true_eq] at hm
        exact hm.1.1
      exact List.Lex.rel hd
  | cons c l ih =>
    cases m with
    | nil => cases h
    | cons d m =>
      rw [List.all_cons, Bool.and_eq_true] at hm
      rcases List.cons_lt_cons_iff.1 h with hcd | ⟨rfl, hlm⟩
      · exact List.Lex.rel hcd
      · exact List.Lex.cons (ih hlm hm.2)

theorem lt_append_space (l : List Char) : l < l ++ [' '] := by
  induction l with
  | nil => exact List.Lex.nil
  | cons c l ih => exact List.Lex.cons ih

end Text

namespace Evaluation

def IsNumeral (s : String) : Prop := (Binary64.ofText? s).isSome

/-- The first text comes before the second one: as numbers if both spell one, else as texts. -/
def Below (a b : String) : Prop := compareTexts a b = some .lt

instance (s : String) : Decidable (IsNumeral s) := inferInstanceAs (Decidable (_ = true))

instance (a b : String) : Decidable (Below a b) := inferInstanceAs (Decidable (_ = _))

/-- Where both texts spell numbers, these are in order if the texts are. -/
def InStep (a b : String) : Prop :=
  IsNumeral a → IsNumeral b →
    (Text.lowercase a < Text.lowercase b → Below a b) ∧
      (Text.lowercase b < Text.lowercase a → Below b a)

/-- Two of the texts that spell numbers beside a third that does not are in order as
numbers if they are as texts. -/
structure Aligned (a b c : String) : Prop where
  first : IsNumeral c ∨ InStep a b
  second : IsNumeral a ∨ InStep b c
  outer : IsNumeral b ∨ InStep a c

variable {a b c : String}

theorem below_iff_of_numerals {x y : Binary64} (ha : Binary64.ofText? a = some x)
    (hb : Binary64.ofText? b = some y) : Below a b ↔ x.compare? y = some .lt := by
  rw [Below, compareTexts, ha, hb]

theorem below_iff_of_text (h : ¬(IsNumeral a ∧ IsNumeral b)) :
    Below a b ↔ Text.lowercase a < Text.lowercase b := by
  rw [← compare_lt_iff_lt, ← Option.some_inj, Below, compareTexts]
  cases ha : Binary64.ofText? a with
  | none => rfl
  | some x =>
    cases hb : Binary64.ofText? b with
    | none => rfl
    | some y => exact absurd ⟨by simp [IsNumeral, ha], by simp [IsNumeral, hb]⟩ h

theorem Below.not_symm (h : Below a b) : ¬Below b a := by
  by_cases hnumerals : IsNumeral a ∧ IsNumeral b
  · obtain ⟨x, hx⟩ := Option.isSome_iff_exists.1 hnumerals.1
    obtain ⟨y, hy⟩ := Option.isSome_iff_exists.1 hnumerals.2
    rw [below_iff_of_numerals hx hy] at h
    rw [below_iff_of_numerals hy hx]
    exact Binary64.compare?_lt_asymm h
  · rw [below_iff_of_text hnumerals] at h
    rw [below_iff_of_text (fun hba => hnumerals hba.symm)]
    exact h.asymm

theorem below_trans_of_numerals (ha : IsNumeral a) (hb : IsNumeral b) (hc : IsNumeral c)
    (hab : Below a b) (hbc : Below b c) : Below a c := by
  obtain ⟨x, hx⟩ := Option.isSome_iff_exists.1 ha
  obtain ⟨y, hy⟩ := Option.isSome_iff_exists.1 hb
  obtain ⟨z, hz⟩ := Option.isSome_iff_exists.1 hc
  rw [below_iff_of_numerals hx hy] at hab
  rw [below_iff_of_numerals hy hz] at hbc
  exact (below_iff_of_numerals hx hz).2 (Binary64.compare?_lt_trans hab hbc)

theorem InStep.symm (h : InStep a b) : InStep b a := fun hb ha => (h ha hb).symm

theorem InStep.below (h : InStep a b) (hlt : Text.lowercase a < Text.lowercase b) : Below a b := by
  by_cases hnumerals : IsNumeral a ∧ IsNumeral b
  · exact (h hnumerals.1 hnumerals.2).1 hlt
  · exact (below_iff_of_text hnumerals).2 hlt

theorem InStep.le_of_below (h : InStep a b) (hab : Below a b) :
    Text.lowercase a ≤ Text.lowercase b :=
  not_lt.1 fun hba => hab.not_symm (h.symm.below hba)

theorem below_trans (h : Aligned a b c) (hab : Below a b) (hbc : Below b c) : Below a c := by
  by_cases ha : IsNumeral a
  · by_cases hb : IsNumeral b
    · by_cases hc : IsNumeral c
      · exact below_trans_of_numerals ha hb hc hab hbc
      · -- the two numbers come first
        have hle := (h.first.resolve_left hc).le_of_below hab
        rw [below_iff_of_text (fun hn => hc hn.2)] at hbc ⊢
        exact hle.trans_lt hbc
    · -- the text stands between the two others
      rw [below_iff_of_text (fun hn => hb hn.2)] at hab
      rw [below_iff_of_text (fun hn => hb hn.1)] at hbc
      exact (h.outer.resolve_left hb).below (hab.trans hbc)
  · -- the two numbers come last
    have hle := (h.second.resolve_left ha).le_of_below hbc
    rw [below_iff_of_text (fun hn => ha hn.1)] at hab ⊢
    exact hab.trans_le hle

/-- Between a text and a number that stands behind it as a text there is a text that is no number:
the first one with a space behind it. -/
theorem exists_between (hb : IsNumeral b) (hlt : Text.lowercase a < Text.lowercase b) :
    ∃ c, c ≠ "" ∧ ¬IsNumeral c ∧ Below a c ∧ Below c b := by
  have hspace : ¬IsNumeral (a ++ " ") := by
    intro hnumeral
    obtain ⟨x, hx⟩ := Option.isSome_iff_exists.1 hnumeral
    have hvisible := Binary64.ofText?_all hx
    rw [String.toList_append, List.all_append, Bool.and_eq_true] at hvisible
    exact absurd hvisible.2 (by decide)
  obtain ⟨y, hy⟩ := Option.isSome_iff_exists.1 hb
  have hvisible : (Text.lowercase b).toList.all Binary64.isVisible = true := by
    rw [Text.toList_lowercase]
    exact Text.isVisible_lowerWithin (Binary64.ofText?_all hy) false false
  refine ⟨a ++ " ", by simp, hspace, ?_, ?_⟩
  · rw [below_iff_of_text (fun hn => hspace hn.2), Text.lowercase_append_space,
      String.lt_iff_toList_lt, String.toList_append]
    exact Text.lt_append_space _
  · rw [below_iff_of_text (fun hn => hspace hn.1), Text.lowercase_append_space,
      String.lt_iff_toList_lt, String.toList_append]
    exact Text.append_space_lt hlt hvisible

theorem exists_between_of_not_inStep (h : ¬InStep a b) : ∃ c, c ≠ "" ∧ ¬IsNumeral c ∧
    (Below a c ∧ Below c b ∧ ¬Below a b ∨ Below b c ∧ Below c a ∧ ¬Below b a) := by
  simp only [InStep, Classical.not_imp, not_and_or] at h
  obtain ⟨ha, hb, ⟨hlt, hbelow⟩ | ⟨hlt, hbelow⟩⟩ := h
  · obtain ⟨c, hne, hc, hac, hcb⟩ := exists_between hb hlt
    exact ⟨c, hne, hc, .inl ⟨hac, hcb, hbelow⟩⟩
  · obtain ⟨c, hne, hc, hbc, hca⟩ := exists_between ha hlt
    exact ⟨c, hne, hc, .inr ⟨hbc, hca, hbelow⟩⟩

theorem evaluate_less {u v : Json} (hu : u.text? = some a) (hv : v.text? = some b) :
    evaluate .less [u] v = .ok (decide (Below a b)) := by
  have htakes : Operator.less.Takes v := by
    simp [Operator.takes_iff, Operator.takesList, Operator.takesPattern]
  rw [evaluate_of_takes htakes]
  simp only [Operator.verdict, Operator.demand, Test.admitsAny, Test.admits, order, hu, hv,
    List.any_cons, List.any_nil, Option.any_some, Option.bind_some, Bool.or_false]
  rw [Except.ok.injEq, Bool.eq_iff_iff, decide_eq_true_iff, Below]
  cases compareTexts a b with
  | none => simp
  | some o => cases o <;> simp [Ordering.isLT]

/-- `<` goes from a first text over a second to a third if the two of them that are numbers, where
just two are, stand in one order as numbers and as texts; wherever two numbers do not, some text
that is no number comes between them against it. -/
theorem less_transitive_where_aligned :
    (∀ (u v w : Json) (a b c : String), u.text? = some a → v.text? = some b → w.text? = some c →
      Aligned a b c → evaluate .less [u] v = .ok true → evaluate .less [v] w = .ok true →
        evaluate .less [u] w = .ok true) ∧
    ∀ (u v : Json) (a b : String), u.text? = some a → v.text? = some b → ¬InStep a b →
      ∃ c, c ≠ "" ∧ ¬IsNumeral c ∧
        (evaluate .less [u] (.string c) = .ok true ∧ evaluate .less [.string c] v = .ok true ∧
            evaluate .less [u] v = .ok false ∨
          evaluate .less [v] (.string c) = .ok true ∧ evaluate .less [.string c] u = .ok true ∧
            evaluate .less [v] u = .ok false) := by
  constructor
  · intro u v w a b c hu hv hw haligned huv hvw
    rw [evaluate_less hu hv, Except.ok.injEq, decide_eq_true_iff] at huv
    rw [evaluate_less hv hw, Except.ok.injEq, decide_eq_true_iff] at hvw
    rw [evaluate_less hu hw, decide_eq_true (below_trans haligned huv hvw)]
  · intro u v a b hu hv hstep
    obtain ⟨c, hne, hc, hbetween⟩ := exists_between_of_not_inStep hstep
    have htext : (Json.string c).text? = some c := Json.text?_string hne
    refine ⟨c, hne, hc, ?_⟩
    simpa only [evaluate_less hu hv, evaluate_less hv hu, evaluate_less hu htext,
      evaluate_less hv htext, evaluate_less htext hu, evaluate_less htext hv, Except.ok.injEq,
      decide_eq_true_iff, decide_eq_false_iff_not] using hbetween

/-- Two numbers below a text, and two that stand the other way round as texts. -/
theorem less_transitive_where_aligned_ten :
    Aligned "2" "3" "x" ∧ evaluate .less [.number (.integer 2)] (.string "3") = .ok true ∧
    evaluate .less [.string "3"] (.string "x") = .ok true ∧
    evaluate .less [.number (.integer 2)] (.string "x") = .ok true ∧
    ¬InStep "9" "10" ∧ ∃ c, ¬IsNumeral c ∧
      evaluate .less [.string "10"] (.string c) = .ok true ∧
      evaluate .less [.string c] (.string "9") = .ok true ∧
      evaluate .less [.string "10"] (.string "9") = .ok false := by
  have haligned : Aligned "2" "3" "x" :=
    ⟨.inr fun _ _ => by decide +kernel, .inr fun _ h => absurd h (by decide +kernel),
      .inl (by decide +kernel)⟩
  have hstep : ¬InStep "9" "10" := by
    intro h
    exact absurd ((h (by decide +kernel) (by decide +kernel)).2 (by decide +kernel))
      (by decide +kernel)
  have hlow : evaluate .less [.number (.integer 2)] (.string "3") = .ok true := by decide +kernel
  have hhigh : evaluate .less [.string "3"] (.string "x") = .ok true := by decide +kernel
  have hnine : evaluate .less [.string "9"] (.string "10") = .ok true := by decide +kernel
  obtain ⟨c, -, hc, hbetween⟩ :=
    less_transitive_where_aligned.2 (.string "9") (.string "10") "9" "10"
    (by decide +kernel) (by decide +kernel) hstep
  refine ⟨haligned, hlow, hhigh,
    less_transitive_where_aligned.1 _ _ _ "2" "3" "x" (by decide +kernel) (by decide +kernel)
      (by decide +kernel) haligned hlow hhigh, hstep, c, hc, ?_⟩
  rcases hbetween with ⟨-, -, hnot⟩ | hbetween
  · rw [hnine] at hnot
    cases hnot
  · exact hbetween

/-- Nine comes before ten, and ten before one followed by a letter, but nine does not. -/
theorem less_around_ten :
    (∀ s ∈ ["9", "10", "1a"], Binary64.ofText? s ≠ some .nan) ∧
    evaluate .less [.string "9"] (.string "10") = .ok true ∧
    evaluate .less [.string "10"] (.string "1a") = .ok true ∧
    evaluate .less [.string "9"] (.string "1a") = .ok false :=
  ⟨by decide +kernel, by decide +kernel, by decide +kernel, by decide +kernel⟩

end Evaluation
end SynonymLookup
