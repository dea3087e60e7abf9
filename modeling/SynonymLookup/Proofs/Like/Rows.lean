import Mathlib.Data.List.Basic
import Mathlib.Data.List.Forall2
import Mathlib.Data.List.Induction
import SynonymLookup.Like

/-! The rows of a match. What a text is cut into by the tokens of a pattern; a row that shows for
which of the text's beginnings there is such a cut; and that each loop over a row keeps inside the
row, inside the one before and inside the text. -/

namespace SynonymLookup
namespace Like

/-- The pieces of text that a token stands for. -/
def Token.Takes : Token → List Char → Prop
  | .anyMany, _ => True
  | .anyOne, piece => piece.length = 1
  | .exactly c, piece => piece = [c]

/-- The text can be cut into consecutive pieces, one for each token. -/
def Cuts (tokens : List Token) (text : List Char) : Prop :=
  ∃ pieces : List (List Char), List.Forall₂ Token.Takes tokens pieces ∧ pieces.flatten = text

theorem cuts_nil {text : List Char} : Cuts [] text ↔ text = [] := by
  simp [Cuts, eq_comm]

theorem cuts_singleton {t : Token} {text : List Char} : Cuts [t] text ↔ t.Takes text := by
  constructor
  · rintro ⟨pieces, htakes, rfl⟩
    obtain ⟨piece, rest, hpiece, hrest, rfl⟩ := List.forall₂_cons_left_iff.1 htakes
    rw [List.forall₂_nil_left_iff.1 hrest]
    simpa using hpiece
  · intro h
    exact ⟨[text], .cons h .nil, by simp⟩

theorem cuts_append {before after : List Token} {text : List Char} :
    Cuts (before ++ after) text ↔ ∃ l r, l ++ r = text ∧ Cuts before l ∧ Cuts after r := by
  constructor
  · rintro ⟨pieces, htakes, rfl⟩
    have hleft := List.forall₂_take before.length htakes
    have hright := List.forall₂_drop before.length htakes
    rw [List.take_left] at hleft
    rw [List.drop_left] at hright
    refine ⟨_, _, ?_, ⟨_, hleft, rfl⟩, ⟨_, hright, rfl⟩⟩
    rw [← List.flatten_append, List.take_append_drop]
  · rintro ⟨_, _, rfl, ⟨left, hleft, rfl⟩, ⟨right, hright, rfl⟩⟩
    exact ⟨left ++ right, List.rel_append hleft hright, List.flatten_append⟩

namespace Row

/-- The row has an entry for every beginning of the text, and it says which lengths are meant. -/
def Shows (row : Row) (text : Array Char) (P : Nat → Prop) : Prop :=
  row.size = text.size + 1 ∧ ∀ j ≤ text.size, ∃ entry, row[j]? = some entry ∧ (entry = true ↔ P j)

variable {row : Row} {text : Array Char} {P Q : Nat → Prop}

theorem shows_blank (text : Array Char) : (blank text).Shows text fun _ => False := by
  refine ⟨by simp [blank], fun j hj => ⟨false, ?_, by simp⟩⟩
  simp only [blank, Array.getElem?_replicate]
  exact if_pos (by omega)

theorem Shows.congr (h : row.Shows text P) (hPQ : ∀ j ≤ text.size, (P j ↔ Q j)) :
    row.Shows text Q := by
  refine ⟨h.1, fun j hj => ?_⟩
  obtain ⟨entry, hentry, hP⟩ := h.2 j hj
  exact ⟨entry, hentry, hP.trans (hPQ j hj)⟩

theorem Shows.put? (h : row.Shows text P) {j : Nat} (hj : j ≤ text.size) (entry : Bool) :
    ∃ next, row.put? j entry = some next ∧
      next.Shows text fun i => if i = j then entry = true else P i := by
  have hsize : j < row.size := by have := h.1; omega
  refine ⟨row.set j entry, dif_pos hsize, by simpa using h.1, fun i hi => ?_⟩
  by_cases hij : i = j
  · subst hij
    exact ⟨entry, by simp [hsize], by simp⟩
  · obtain ⟨found, hfound, hP⟩ := h.2 i hi
    refine ⟨found, ?_, by simpa [hij] using hP⟩
    rw [Array.getElem?_set_ne hsize (Ne.symm hij), hfound]

/-- What the loop of `shifted?` has entered after `k` turns. -/
theorem shifted_turns {read : Nat → Option Bool}
    (hread : ∀ i < text.size, ∃ entry, read i = some entry ∧ (entry = true ↔ Q i)) {k : Nat}
    (hk : k ≤ text.size) :
    ∃ next, (List.range' 1 k).foldlM (fun next j => do Row.put? next j (← read (j - 1)))
        (blank text) = some next ∧
      next.Shows text fun j => ∃ i < k, j = i + 1 ∧ Q i := by
  induction k with
  | zero => exact ⟨blank text, rfl, (shows_blank text).congr (by simp)⟩
  | succ k ih =>
    obtain ⟨row, hrow, hshows⟩ := ih (by omega)
    obtain ⟨entry, hentry, hQ⟩ := hread k (by omega)
    obtain ⟨next, hnext, hset⟩ := hshows.put? (j := k + 1) hk entry
    refine ⟨next, ?_, hset.congr fun j _ => ?_⟩
    · rw [List.range'_1_concat, List.foldlM_append, hrow]
      simp [Nat.add_comm 1 k, hentry, hnext]
    · by_cases hj : j = k + 1
      · simp [hj, hQ]
      · have hlast : ∀ i, i < k + 1 ∧ j = i + 1 ↔ i < k ∧ j = i + 1 := fun i => by omega
        simp only [if_neg hj, ← and_assoc, hlast]

/-- What the loop of `spread?` has entered after `k` turns, and the flag that it carries. -/
theorem spread_turns (h : row.Shows text P) {k : Nat} (hk : k ≤ text.size + 1) :
    ∃ next reachable, (List.range k).foldlM
        (fun (next, reachable) j => do
          let reachable := reachable || (← row[j]?)
          return (← Row.put? next j reachable, reachable))
        (blank text, false) = some (next, reachable) ∧
      (next.Shows text fun j => j < k ∧ ∃ i ≤ j, P i) ∧ (reachable = true ↔ ∃ i < k, P i) := by
  induction k with
  | zero => exact ⟨blank text, false, rfl, (shows_blank text).congr (by simp), by simp⟩
  | succ k ih =>
    obtain ⟨filled, reachable, hfilled, hshows, hreachable⟩ := ih (by omega)
    obtain ⟨entry, hentry, hP⟩ := h.2 k (by omega)
    obtain ⟨next, hnext, hset⟩ := hshows.put? (j := k) (by omega) (reachable || entry)
    have hflag : (reachable || entry) = true ↔ ∃ i < k + 1, P i := by
      rw [Bool.or_eq_true, hreachable, hP, Nat.exists_lt_succ_right]
    refine ⟨next, reachable || entry, ?_, hset.congr fun j _ => ?_, hflag⟩
    · rw [List.range_succ, List.foldlM_append, hfilled]
      simp [hentry, hnext]
    · by_cases hj : j = k
      · rw [if_pos hj, hflag, hj, and_iff_right (Nat.lt_succ_self k)]
        simp only [Nat.lt_succ_iff]
      · have hlast : j < k + 1 ↔ j < k := by omega
        simp [hj, hlast]

theorem shifted?_shows {read : Nat → Option Bool}
    (hread : ∀ i < text.size, ∃ entry, read i = some entry ∧ (entry = true ↔ Q i)) :
    ∃ next, shifted? text read = some next ∧ next.Shows text fun j => ∃ i, j = i + 1 ∧ Q i := by
  obtain ⟨next, hnext, hshows⟩ := shifted_turns hread (Nat.le_refl text.size)
  refine ⟨next, hnext, hshows.congr fun j hj => exists_congr fun i => ?_⟩
  exact and_iff_right_of_imp fun hi => by omega

theorem spread?_shows (h : row.Shows text P) :
    ∃ next, spread? text row = some next ∧ next.Shows text fun j => ∃ i ≤ j, P i := by
  obtain ⟨next, reachable, hnext, hshows, -⟩ := spread_turns h (Nat.le_refl (text.size + 1))
  refine ⟨next, ?_, hshows.congr fun j hj => and_iff_right (Nat.lt_succ_of_le hj)⟩
  rw [spread?, hnext]
  rfl

theorem drop_take_eq_singleton {l : List Char} {i j : Nat} (hj : j ≤ l.length) {c : Char} :
    (l.take j).drop i = [c] ↔ j = i + 1 ∧ l[i]? = some c := by
  constructor
  · intro h
    have hi : j = i + 1 := by
      have hlength : j - i = 1 := by simpa [hj] using congrArg List.length h
      omega
    subst hi
    rw [List.drop_take, Nat.add_sub_cancel_left, List.take_one, List.head?_drop] at h
    exact ⟨rfl, Option.toList_eq_singleton_iff.1 h⟩
  · rintro ⟨rfl, h⟩
    rw [List.drop_take, Nat.add_sub_cancel_left, List.take_one, List.head?_drop, h]
    rfl

/-- One token more: the entries of the next row are those whose place is reached from an entry of
the row before by a piece that the token takes. -/
theorem Shows.step (h : row.Shows text P) (t : Token) :
    ∃ next, step? text row t = some next ∧
      next.Shows text fun j => ∃ i ≤ j, P i ∧ t.Takes ((text.toList.take j).drop i) := by
  cases t with
  | anyMany =>
    obtain ⟨next, hnext, hshows⟩ := spread?_shows h
    exact ⟨next, hnext, hshows.congr fun j _ => by simp [Token.Takes]⟩
  | anyOne =>
    obtain ⟨next, hnext, hshows⟩ := shifted?_shows fun i hi => h.2 i (Nat.le_of_lt hi)
    refine ⟨next, hnext, hshows.congr fun j hj => exists_congr fun i => ?_⟩
    have hlength : ((text.toList.take j).drop i).length = j - i := by simp [hj]
    rw [Token.Takes, hlength]
    constructor
    · rintro ⟨hi, hP⟩
      exact ⟨by omega, hP, by omega⟩
    · rintro ⟨_, hP, hi⟩
      exact ⟨by omega, hP⟩
  | exactly c =>
    have hread : ∀ i < text.size, ∃ entry,
        (do if ← row[i]? then return (← text[i]?) == c else return false) = some entry ∧
          (entry = true ↔ P i ∧ text[i]? = some c) := by
      intro i hi
      obtain ⟨entry, hentry, hP⟩ := h.2 i (Nat.le_of_lt hi)
      cases entry <;> simp [hentry, hi, ← hP]
    obtain ⟨next, hnext, hshows⟩ := shifted?_shows hread
    refine ⟨next, hnext, hshows.congr fun j hj => exists_congr fun i => ?_⟩
    rw [Token.Takes, drop_take_eq_singleton hj, Array.getElem?_toList]
    constructor
    · rintro ⟨hi, hP, hc⟩
      exact ⟨by omega, hP, hi, hc⟩
    · rintro ⟨_, hP, hi, hc⟩
      exact ⟨hi, hP, hc⟩

end Row

/-- The last token takes what the tokens before it leave. -/
theorem cuts_concat {tokens : List Token} {t : Token} {text : List Char} :
    Cuts (tokens ++ [t]) text ↔
      ∃ i ≤ text.length, Cuts tokens (text.take i) ∧ t.Takes (text.drop i) := by
  rw [cuts_append]
  constructor
  · rintro ⟨l, r, rfl, hl, hr⟩
    exact ⟨l.length, by simp, by simpa using hl, by simpa using cuts_singleton.1 hr⟩
  · rintro ⟨i, _, hl, hr⟩
    exact ⟨_, _, List.take_append_drop i text, hl, cuts_singleton.2 hr⟩

theorem exists_last (tokens : List Token) (text : Array Char) :
    ∃ start last, (Row.blank text).put? 0 true = some start ∧
      tokens.foldlM (step? text) start = some last ∧
      Row.Shows last text fun j => Cuts tokens (text.toList.take j) := by
  induction tokens using List.reverseRecOn with
  | nil =>
    obtain ⟨start, hstart, hshows⟩ := (Row.shows_blank text).put? (Nat.zero_le _) true
    refine ⟨start, start, hstart, rfl, hshows.congr fun j hj => ?_⟩
    by_cases hzero : j = 0
    · simp [hzero, cuts_nil]
    · have hsize : 0 < text.size := by omega
      simp [hzero, cuts_nil, List.take_eq_nil_iff, Array.size_pos_iff.1 hsize]
  | append_singleton tokens t ih =>
    obtain ⟨start, row, hstart, hrow, hshows⟩ := ih
    obtain ⟨last, hlast, hshows⟩ := hshows.step t
    refine ⟨start, last, hstart, ?_, hshows.congr fun j hj => ?_⟩
    · rw [List.foldlM_append, hrow]
      simpa using hlast
    · have hlength : (text.toList.take j).length = j := by simp [hj]
      rw [cuts_concat, hlength]
      refine exists_congr fun i => and_congr_right fun hi => ?_
      rw [List.take_take, Nat.min_eq_left hi]

/-- The match looks up nothing outside its rows and the text, and comes to whether
there is a cut. -/
theorem exists_verdict (tokens : List Token) (text : Array Char) :
    ∃ verdict, matchTokens? tokens text = some verdict ∧
      (verdict = true ↔ Cuts tokens text.toList) := by
  obtain ⟨start, last, hstart, hlast, hshows⟩ := exists_last tokens text
  obtain ⟨verdict, hverdict, hcuts⟩ := hshows.2 text.size (Nat.le_refl _)
  have hall : text.toList.take text.size = text.toList := List.take_of_length_le (by simp)
  refine ⟨verdict, ?_, hall ▸ hcuts⟩
  simp [matchTokens?, hstart, hlast, hverdict]

theorem isMatch_iff {pattern text : String} : isMatch pattern text = true ↔
    Cuts (tokens (Text.lowercase pattern).toList) (Text.lowercase text).toList := by
  obtain ⟨verdict, hverdict, hcuts⟩ := exists_verdict (tokens (Text.lowercase pattern).toList)
    (Text.lowercase text).toList.toArray
  rw [isMatch, hverdict]
  exact hcuts

/-- The language of patterns: which tokens a pattern spells. -/
inductive Spells : List Char → List Token → Prop
  | nil : Spells [] []
  | anyMany {cs : List Char} {ts : List Token} : Spells cs ts → Spells ('%' :: cs) (.anyMany :: ts)
  | anyOne {cs : List Char} {ts : List Token} : Spells cs ts → Spells ('_' :: cs) (.anyOne :: ts)
  | plain {c : Char} {cs : List Char} {ts : List Token} : c ≠ '%' → c ≠ '_' → c ≠ '\\' →
      Spells cs ts → Spells (c :: cs) (.exactly c :: ts)
  | escaped {c : Char} {cs : List Char} {ts : List Token} : Spells cs ts →
      Spells ('\\' :: c :: cs) (.exactly c :: ts)
  | lone : Spells ['\\'] [.exactly '\\']

theorem spells_tokens (cs : List Char) : Spells cs (tokens cs) := by
  induction cs using tokens.induct with
  | case1 => exact .nil
  | case2 c rest ih =>
    rw [tokens]
    exact .escaped ih
  | case3 c rest hlone ih =>
    by_cases hslash : c = '\\'
    · cases rest with
      | nil => exact hslash ▸ .lone
      | cons d rest => exact (hlone d rest hslash rfl).elim
    · rw [tokens]
      · by_cases hmany : c = '%'
        · subst hmany
          exact .anyMany ih
        by_cases hone : c = '_'
        · subst hone
          exact .anyOne ih
        · rw [if_neg hmany, if_neg hone]
          exact .plain hmany hone hslash ih
      · exact hlone

theorem Spells.tokens_eq {cs : List Char} {ts : List Token} (h : Spells cs ts) :
    tokens cs = ts := by
  induction h with
  | nil => rfl
  | anyMany _ ih => simp [tokens, ih]
  | anyOne _ ih => simp [tokens, ih]
  | plain hmany hone hslash _ ih => simp [tokens, hmany, hone, hslash, ih]
  | escaped _ ih => rw [tokens, ih]
  | lone => rfl

theorem matchTokens?_eq (pattern text : String) :
    matchTokens? (tokens (Text.lowercase pattern).toList) (Text.lowercase text).toList.toArray =
      some (isMatch pattern text) := by
  obtain ⟨verdict, hverdict, -⟩ := exists_verdict (tokens (Text.lowercase pattern).toList)
    (Text.lowercase text).toList.toArray
  rw [isMatch, hverdict]
  rfl

/-- The match of a pattern looks up nothing outside its rows and the text. It succeeds exactly if
the lower case of the text can be cut into one piece for each token that the lower case of the
pattern spells, each piece one that the token takes. -/
theorem isMatch_iff_pieces (pattern text : String) :
    matchTokens? (tokens (Text.lowercase pattern).toList) (Text.lowercase text).toList.toArray =
      some (isMatch pattern text) ∧
    (isMatch pattern text = true ↔ ∃ ts pieces, Spells (Text.lowercase pattern).toList ts ∧
      List.Forall₂ Token.Takes ts pieces ∧ pieces.flatten = (Text.lowercase text).toList) := by
  refine ⟨matchTokens?_eq pattern text, isMatch_iff.trans ?_⟩
  constructor
  · rintro ⟨pieces, htakes, hpieces⟩
    exact ⟨_, pieces, spells_tokens _, htakes, hpieces⟩
  · rintro ⟨ts, pieces, hspells, htakes, hpieces⟩
    exact ⟨pieces, hspells.tokens_eq ▸ htakes, hpieces⟩

end Like
end SynonymLookup
