import SynonymLookup.Proofs.Evaluation
import SynonymLookup.Proofs.Like.Rows
import SynonymLookup.Proofs.Text.Lowercase

/-! Patterns made of keywords. Escaping and lower case can be taken in either order, since the
signs that have a meaning in patterns have no case and end a word; so a pattern made of a
keyword says what it should of the lower case of the keyword: that it is contained in a
text's, begins it, or equals it. -/

namespace SynonymLookup
namespace Like

/-- A sign that a pattern does not take as itself. -/
def isMark (c : Char) : Bool := c == '%' || c == '_' || c == '\\'

def escapeChars (cs : List Char) : List Char :=
  cs.flatMap fun c => if isMark c then ['\\', c] else [c]

theorem isMark_iff {c : Char} : isMark c = true ↔ c = '%' ∨ c = '_' ∨ c = '\\' := by
  simp [isMark, or_assoc]

theorem toList_escape (s : String) : (escape s).toList = escapeChars s.toList := by
  rw [escape, String.toList_ofList, escapeChars]
  simp only [isMark_iff]

theorem escapeChars_mark {c : Char} (h : isMark c = true) (cs : List Char) :
    escapeChars (c :: cs) = '\\' :: c :: escapeChars cs := by simp [escapeChars, h]

theorem escapeChars_plain {c : Char} (h : isMark c = false) (cs : List Char) :
    escapeChars (c :: cs) = c :: escapeChars cs := by simp [escapeChars, h]

theorem escapeChars_append (l r : List Char) :
    escapeChars (l ++ r) = escapeChars l ++ escapeChars r := List.flatMap_append

theorem escapeChars_of_unmarked {cs : List Char} (h : ∀ c ∈ cs, isMark c = false) :
    escapeChars cs = cs := by
  induction cs with
  | nil => rfl
  | cons c cs ih =>
    rw [escapeChars_plain (h c List.mem_cons_self), ih fun d hd => h d (List.mem_cons_of_mem _ hd)]

/-- A mark has no case and ends a word. -/
theorem neutral_of_isMark {c : Char} (h : isMark c = true) :
    c ≠ 'Σ' ∧ Text.isCaseIgnorable c = false ∧ Text.isCased c = false ∧ Text.lowerChar c = [c] := by
  rcases isMark_iff.1 h with rfl | rfl | rfl <;> decide +kernel

theorem casedBefore_mark {c : Char} (h : isMark c = true) (after : Bool) (cs : List Char) :
    Text.casedBefore after (c :: cs) = false := by
  simp [Text.casedBefore, neutral_of_isMark h]

theorem casedAfter_mark {c : Char} (h : isMark c = true) (before : Bool) :
    Text.casedAfter before [c] = false := by
  simp [Text.casedAfter, neutral_of_isMark h]

theorem lowerWithin_mark {c : Char} (h : isMark c = true) (before after : Bool) (cs : List Char) :
    Text.lowerWithin before after (c :: cs) = c :: Text.lowerWithin false after cs := by
  simp [Text.lowerWithin, neutral_of_isMark h, casedAfter_mark h]

theorem isMark_of_mem_lowerChar {c d : Char} (h : isMark c = false) (hd : d ∈ Text.lowerChar c) :
    isMark d = false := by
  by_contra hmark
  have hrange : 0 < d.toNat ∧ d.toNat ≤ 0x60 := by
    rcases isMark_iff.1 (Bool.not_eq_false _ ▸ hmark) with rfl | rfl | rfl <;> decide
  rw [Text.eq_of_mem_lowerChar hd hrange.1 hrange.2, h] at hmark
  exact hmark rfl

theorem casedBefore_escapeChars (after : Bool) (cs : List Char) :
    Text.casedBefore after (escapeChars cs) = Text.casedBefore after cs := by
  induction cs with
  | nil => rfl
  | cons c cs ih =>
    cases hc : isMark c with
    | true => rw [escapeChars_mark hc, casedBefore_mark rfl, casedBefore_mark hc]
    | false => rw [escapeChars_plain hc, Text.casedBefore, Text.casedBefore, ih]

/-- Escaping and lower case can be taken in either order, wherever the text stands. -/
theorem lowerWithin_escapeChars (before after : Bool) (cs : List Char) :
    Text.lowerWithin before after (escapeChars cs) =
      escapeChars (Text.lowerWithin before after cs) := by
  induction cs generalizing before with
  | nil => rfl
  | cons c cs ih =>
    cases hc : isMark c with
    | true =>
      rw [escapeChars_mark hc, lowerWithin_mark rfl, lowerWithin_mark hc, lowerWithin_mark hc, ih,
        escapeChars_mark hc]
    | false =>
      -- the sigma sees the same neighbours, and what is written for a character needs no escape
      have hpiece (after : Bool) :
          ∀ d ∈ (if c = 'Σ' then [if Text.isFinal before after then 'ς' else 'σ']
          else Text.lowerChar c), isMark d = false := by
        intro d hd
        split at hd
        · rw [List.mem_singleton.1 hd]
          split <;> rfl
        · exact isMark_of_mem_lowerChar hc hd
      rw [escapeChars_plain hc, Text.lowerWithin, Text.lowerWithin, escapeChars_append, ih,
        casedBefore_escapeChars, escapeChars_of_unmarked (hpiece _)]

theorem tokens_escapeChars_append (cs rest : List Char) :
    tokens (escapeChars cs ++ rest) = cs.map .exactly ++ tokens rest := by
  induction cs with
  | nil => rfl
  | cons c cs ih =>
    cases hc : isMark c with
    | true => simp [escapeChars_mark hc, tokens, ih]
    | false =>
      obtain ⟨⟨hmany, hone⟩, hslash⟩ : (c ≠ '%' ∧ c ≠ '_') ∧ c ≠ '\\' := by simpa [isMark] using hc
      simp [escapeChars_plain hc, tokens, hmany, hone, hslash, ih]

theorem cuts_exactly {cs text : List Char} : Cuts (cs.map .exactly) text ↔ text = cs := by
  induction cs generalizing text with
  | nil => exact cuts_nil
  | cons c cs ih =>
    rw [List.map_cons, ← List.singleton_append, cuts_append]
    simp only [cuts_singleton, Token.Takes, ih]
    constructor
    · rintro ⟨_, _, rfl, rfl, rfl⟩
      rfl
    · rintro rfl
      exact ⟨[c], cs, rfl, rfl, rfl⟩

theorem escape_eq_empty_iff {s : String} : escape s = "" ↔ s = "" := by
  rw [← String.toList_eq_nil_iff, ← String.toList_eq_nil_iff, toList_escape]
  cases s.toList with
  | nil => simp [escapeChars]
  | cons c cs => cases hc : isMark c <;> simp [escapeChars, hc]

theorem toList_lowercase_escape (keyword : String) :
    (Text.lowercase (escape keyword)).toList = escapeChars (Text.lowercase keyword).toList := by
  rw [Text.toList_lowercase, Text.toList_lowercase, toList_escape, lowerWithin_escapeChars]

theorem lowerWithin_escape_percent (keyword : String) :
    Text.lowerWithin false false ((escape keyword).toList ++ ['%']) =
      escapeChars (Text.lowercase keyword).toList ++ ['%'] := by
  rw [Text.lowerWithin_append, casedBefore_mark rfl, lowerWithin_mark rfl,
    ← Text.toList_lowercase, toList_lowercase_escape]
  rfl

theorem tokens_escape (keyword : String) :
    tokens (Text.lowercase (escape keyword)).toList =
      (Text.lowercase keyword).toList.map .exactly := by
  rw [toList_lowercase_escape]
  simpa [tokens] using tokens_escapeChars_append (Text.lowercase keyword).toList []

theorem tokens_startsWith (keyword : String) :
    tokens (Text.lowercase (MatchMode.startsWith.pattern keyword)).toList =
      (Text.lowercase keyword).toList.map .exactly ++ [.anyMany] := by
  have hpattern : (MatchMode.startsWith.pattern keyword).toList =
      (escape keyword).toList ++ ['%'] := by
    simp [MatchMode.pattern]
  rw [Text.toList_lowercase, hpattern, lowerWithin_escape_percent, tokens_escapeChars_append]
  rfl

theorem tokens_contains (keyword : String) :
    tokens (Text.lowercase (MatchMode.contains.pattern keyword)).toList =
      .anyMany :: ((Text.lowercase keyword).toList.map .exactly ++ [.anyMany]) := by
  have hpattern : (MatchMode.contains.pattern keyword).toList =
      '%' :: ((escape keyword).toList ++ ['%']) := by simp [MatchMode.pattern]
  rw [Text.toList_lowercase, hpattern, lowerWithin_mark rfl, lowerWithin_escape_percent]
  simp [tokens, tokens_escapeChars_append]

theorem isMatch_escape_iff {keyword text : String} :
    isMatch (escape keyword) text = true ↔ Text.lowercase keyword = Text.lowercase text := by
  rw [isMatch_iff, tokens_escape, cuts_exactly, String.toList_inj, eq_comm]

theorem isMatch_startsWith_iff {keyword text : String} :
    isMatch (MatchMode.startsWith.pattern keyword) text = true ↔
      (Text.lowercase keyword).toList <+: (Text.lowercase text).toList := by
  rw [isMatch_iff, tokens_startsWith, cuts_append]
  simp only [cuts_singleton, cuts_exactly, Token.Takes, and_true]
  constructor
  · rintro ⟨_, after, h, rfl⟩
    exact ⟨after, h⟩
  · rintro ⟨after, h⟩
    exact ⟨_, after, h, rfl⟩

theorem isMatch_contains_iff {keyword text : String} :
    isMatch (MatchMode.contains.pattern keyword) text = true ↔
      (Text.lowercase keyword).toList <:+: (Text.lowercase text).toList := by
  rw [isMatch_iff, tokens_contains, ← List.singleton_append, cuts_append]
  simp only [cuts_append, cuts_singleton, cuts_exactly, Token.Takes, and_true, true_and]
  constructor
  · rintro ⟨before, _, h, _, after, rfl, rfl⟩
    exact ⟨before, after, by rw [List.append_assoc, h]⟩
  · rintro ⟨before, after, h⟩
    exact ⟨before, _, by rw [← h, List.append_assoc], _, after, rfl, rfl⟩

end Like

namespace Evaluation

theorem evaluate_like_escape {keyword : String} (h : keyword ≠ "") (values : List Json) :
    evaluate .like values (.string (Like.escape keyword)) =
      evaluate .equal values (.string keyword) := by
  have hpattern : (Json.string (Like.escape keyword)).text? = some (Like.escape keyword) :=
    Json.text?_string fun hempty => h (Like.escape_eq_empty_iff.1 hempty)
  have htakes : Operator.Takes .like (.string (Like.escape keyword)) := by
    simp [Operator.Takes, Operator.takesList, hpattern]
  have hequal : Operator.Takes .equal (.string keyword) := by
    simp [Operator.Takes, Operator.takesList]
  have hadmits (left : String) : Test.like.admits (.string (Like.escape keyword)) left =
      Test.equal.admits (.string keyword) left := by
    rw [Bool.eq_iff_iff]
    simp only [Test.admits, hpattern, Option.any_some, Like.isMatch_escape_iff, equalsText,
      Json.text?_string h, Option.map_some, Option.getD_some, Text.sameIgnoringCase_iff]
    exact eq_comm
  rw [evaluate_of_takes htakes, evaluate_of_takes hequal]
  simp only [Operator.verdict, Operator.demand, Test.admitsAny, funext hadmits]

end Evaluation

namespace Like

/-- The patterns of a keyword match, in lower case, what contains it, what starts with it, and,
without a percent sign, what equals it; so the last can be used where equality is asked for. -/
theorem keyword_patterns (keyword text : String) :
    (isMatch (MatchMode.contains.pattern keyword) text = true ↔
      (Text.lowercase keyword).toList <:+: (Text.lowercase text).toList) ∧
    (isMatch (MatchMode.startsWith.pattern keyword) text = true ↔
      (Text.lowercase keyword).toList <+: (Text.lowercase text).toList) ∧
    (isMatch (escape keyword) text = true ↔ Text.lowercase keyword = Text.lowercase text) ∧
    (keyword ≠ "" → ∀ values : List Json,
      Evaluation.evaluate .like values (.string (escape keyword)) =
        Evaluation.evaluate .equal values (.string keyword)) :=
  ⟨isMatch_contains_iff, isMatch_startsWith_iff, isMatch_escape_iff,
    Evaluation.evaluate_like_escape⟩

theorem keyword_patterns_street :
    escape "ΟΔΟΣ_5" = "ΟΔΟΣ\\_5" ∧
    isMatch (MatchMode.contains.pattern "ΟΔΟΣ_5") "Η οδος_5%" = true ∧
    isMatch (MatchMode.startsWith.pattern "ΟΔΟΣ_5") "ΟδΟΣ_5%" = true ∧
    isMatch (escape "ΟΔΟΣ_5") "ΟΔΟΣ 5" = false ∧
    Evaluation.evaluate .like [.null, .string "οδος_5"] (.string (escape "ΟΔΟΣ_5")) = .ok true := by
  obtain ⟨hcontains, -, -, -⟩ := keyword_patterns "ΟΔΟΣ_5" "Η οδος_5%"
  obtain ⟨-, hstarts, -, -⟩ := keyword_patterns "ΟΔΟΣ_5" "ΟδΟΣ_5%"
  obtain ⟨-, -, hequals, hvalues⟩ := keyword_patterns "ΟΔΟΣ_5" "ΟΔΟΣ 5"
  refine ⟨by decide, hcontains.2 (by decide +kernel), hstarts.2 (by decide +kernel), ?_, ?_⟩
  · rw [← Bool.not_eq_true, hequals]
    decide +kernel
  · rw [hvalues (by decide)]
    decide +kernel

end Like
end SynonymLookup
