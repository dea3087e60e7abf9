import SynonymLookup.Proofs.Evaluation.Verdict

/-! Leaf tests of single values. A test sees no more of a value than its text, texts are never
empty, and only list and pattern operators refuse what they are given to compare with. -/

namespace SynonymLookup

namespace Binary64

theorem positionalText_ne_nil (digits : List Char) (exponent : Int) :
    positionalText digits exponent ≠ [] := by
  unfold positionalText
  split <;> simp

theorem scientificText_ne_nil (digits : List Char) (exponent : Int) :
    scientificText digits exponent ≠ [] := by
  simp [scientificText]

theorem magnitudeText_ne_nil (units : Nat) : magnitudeText units ≠ [] := by
  unfold magnitudeText
  split
  · simp
  · dsimp only
    split
    · exact positionalText_ne_nil _ _
    · exact scientificText_ne_nil _ _

theorem text_ne_empty (x : Binary64) : x.text ≠ "" := by
  cases x with
  | finite negative units =>
    have h := magnitudeText_ne_nil units
    cases negative <;> simp [text, h]
  | infinite negative => cases negative <;> decide
  | nan => decide

end Binary64

theorem Number.text_ne_empty (n : Number) : n.text ≠ "" := by
  cases n with
  | integer n =>
    cases n with
    | ofNat n => exact Nat.repr_ne_empty
    | negSucc n =>
      intro h
      have := congrArg String.toList h
      simp [Number.text, toString, Int.repr] at this
  | float x => exact x.text_ne_empty

namespace Json

theorem text?_ne_empty {v : Json} {s : String} (h : v.text? = some s) : s ≠ "" := by
  unfold text? at h
  split at h
  · split at h
    · cases h
    · rename_i hs
      cases h
      simpa using hs
  · cases h
    exact Number.text_ne_empty _
  · cases h

theorem text?_string {s : String} (h : s ≠ "") : (string s).text? = some s := by
  simp [text?, h]

theorem isNull_of_text? {v : Json} {s : String} (h : v.text? = some s) : v.isNull = false := by
  cases v with
  | null => cases h
  | _ => rfl

end Json

namespace Text

theorem mapChar_ne_nil {sequences : List (Nat × List Nat)} (h : ∀ e ∈ sequences, e.2 ≠ [])
    (ranges : List CaseRange) (c : Char) : mapChar sequences ranges c ≠ [] := by
  unfold mapChar
  split
  · rename_i codes hcodes
    rw [List.lookup_eq_some_iff] at hcodes
    obtain ⟨before, after, rfl, -⟩ := hcodes
    simpa using h _ (List.mem_append_right _ List.mem_cons_self)
  · split <;> simp

theorem lowerChar_ne_nil (c : Char) : lowerChar c ≠ [] := by
  unfold lowerChar
  split
  · simp
  · exact mapChar_ne_nil (by decide) _ c

theorem lowercase_eq_empty_iff {s : String} : lowercase s = "" ↔ s = "" := by
  rw [← String.toList_eq_nil_iff, ← String.toList_eq_nil_iff, lowercase, String.toList_ofList]
  cases s.toList with
  | nil => simp [lowerChars]
  | cons c rest =>
    unfold lowerChars
    dsimp only
    split <;> simp [lowerChar_ne_nil]

end Text

namespace Evaluation

def accepts (o : Operator) (values : List Json) (right : Json) : Bool :=
  match evaluate o values right with
  | .ok verdict => verdict
  | .error _ => false

theorem evaluate_eq_ok {o : Operator} {right : Json} (h : o.Takes right) (values : List Json) :
    evaluate o values right = .ok (accepts o values right) := by
  rw [accepts, evaluate_of_takes h]

/-- A number is tested like its text. -/
theorem evaluate_of_text {v : Json} {s : String} (h : v.text? = some s) (o : Operator)
    (right : Json) : evaluate o [v] right = evaluate o [.string s] right := by
  have hs : (Json.string s).text? = some s := Json.text?_string (Json.text?_ne_empty h)
  have hnull : v.isNull = (Json.string s).isNull := Json.isNull_of_text? h
  have hpass (test : Test) : anyPasses test right [v] = anyPasses test right [.string s] := by
    simp [anyPasses, h, hs]
  unfold evaluate
  simp [hnull, hpass]

theorem accepts_of_text {v : Json} {s : String} (h : v.text? = some s) (o : Operator)
    (right : Json) : accepts o [v] right = accepts o [.string s] right := by
  unfold accepts
  rw [evaluate_of_text h]

/-- A text that is not empty equals another, empty or not, as it does without regard to case. -/
theorem equalsText_string {left : String} (hleft : left ≠ "") (right : String) :
    equalsText left (.string right) = Text.sameIgnoringCase left right := by
  by_cases hright : right = ""
  · have hlower : Text.lowercase left ≠ Text.lowercase "" := fun h =>
      hleft (Text.lowercase_eq_empty_iff.1 h)
    simp [equalsText, Json.text?, hright, Text.sameIgnoringCase, hlower]
  · simp [equalsText, Json.text?_string hright]

theorem accepts_equal {b : String} (hb : b ≠ "") (a : String) :
    accepts .equal [.string a] (.string b) = Text.sameIgnoringCase a b := by
  have hright : (Json.string b).text? = some b := Json.text?_string hb
  by_cases ha : a = ""
  · have hlower : Text.lowercase "" ≠ Text.lowercase b := by
      intro h
      exact hb (Text.lowercase_eq_empty_iff.1 (h.symm.trans (Text.lowercase_eq_empty_iff.2 rfl)))
    subst ha
    simp only [Text.sameIgnoringCase, beq_eq_false_iff_ne.2 hlower]
    rfl
  · have hleft : (Json.string a).text? = some a := Json.text?_string ha
    have hpass : passes .equal (.string b) a = .ok (Text.sameIgnoringCase a b) := by
      simp [passes, equalsText, hright]
      rfl
    have hany : anyPasses .equal (.string b) [.string a] = .ok (Text.sameIgnoringCase a b) := by
      simp only [anyPasses, hleft, hpass]
      cases Text.sameIgnoringCase a b <;> rfl
    unfold accepts evaluate
    simp only [Operator.demand, Operator.takesList, hany]
    rfl

end Evaluation
end SynonymLookup
