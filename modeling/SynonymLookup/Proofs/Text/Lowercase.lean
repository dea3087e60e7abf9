import Mathlib.Data.List.Basic
import SynonymLookup.Text.Case

/-! Lower case in its place. What a part of a text is written as in lower case hangs on its
neighbours only through the nearest characters on either side that count for a sigma, and
only a sigma hangs on them. -/

namespace SynonymLookup
namespace Text

/-- Whether the last character of a text that counts has case, if that is so of what
stands before it. -/
def casedAfter (cased : Bool) : List Char → Bool
  | [] => cased
  | c :: rest => casedAfter (if isCaseIgnorable c then cased else isCased c) rest

def casedBefore (cased : Bool) : List Char → Bool
  | [] => cased
  | c :: rest => if isCaseIgnorable c then casedBefore cased rest else isCased c

def isFinal (before after : Bool) : Bool := before && !after

/-- The lower case of a part of a text, by whether the characters that count on its
two sides have case. -/
def lowerWithin (before after : Bool) : List Char → List Char
  | [] => []
  | c :: rest =>
    (if c = 'Σ' then [if isFinal before (casedBefore after rest) then 'ς' else 'σ']
      else lowerChar c) ++ lowerWithin (casedAfter before [c]) after rest

theorem casedAfter_append (cased : Bool) (l r : List Char) :
    casedAfter cased (l ++ r) = casedAfter (casedAfter cased l) r := by
  induction l generalizing cased with
  | nil => rfl
  | cons c l ih => simp [casedAfter, ih]

theorem casedBefore_append (cased : Bool) (l r : List Char) :
    casedBefore cased (l ++ r) = casedBefore (casedBefore cased r) l := by
  induction l with
  | nil => rfl
  | cons c l ih => simp [casedBefore, ih]

theorem startsCased_eq (cs : List Char) : startsCased cs = casedBefore false cs := by
  induction cs with
  | nil => rfl
  | cons c cs ih =>
    by_cases hc : isCaseIgnorable c
    · simpa [startsCased, casedBefore, List.dropWhile_cons, hc] using ih
    · simp [startsCased, casedBefore, hc]

theorem lowerChars_eq (before : Bool) (cs : List Char) :
    lowerChars before cs = lowerWithin before false cs := by
  induction cs generalizing before with
  | nil => rfl
  | cons c cs ih =>
    by_cases hc : c = 'Σ'
    · simp [lowerChars, lowerWithin, casedAfter, isFinal, hc, ih, startsCased_eq]
    · simp [lowerChars, lowerWithin, casedAfter, hc, ih]

theorem toList_lowercase (s : String) :
    (lowercase s).toList = lowerWithin false false s.toList := by
  rw [lowercase, String.toList_ofList, lowerChars_eq]

theorem lowerWithin_append (before after : Bool) (l r : List Char) :
    lowerWithin before after (l ++ r) =
      lowerWithin before (casedBefore after r) l ++ lowerWithin (casedAfter before l) after r := by
  induction l generalizing before with
  | nil => rfl
  | cons c l ih =>
    have hl := ih (casedAfter before [c])
    have hcased : casedAfter (casedAfter before [c]) l = casedAfter before (c :: l) :=
      (casedAfter_append before [c] l).symm
    rw [List.cons_append, lowerWithin, lowerWithin, hl, hcased, casedBefore_append,
      List.append_assoc]

/-- A part has one length in lower case wherever it stands. -/
theorem length_lowerWithin (before after before' after' : Bool) (cs : List Char) :
    (lowerWithin before after cs).length = (lowerWithin before' after' cs).length := by
  induction cs generalizing before before' with
  | nil => rfl
  | cons c cs ih =>
    have hpiece (final final' : Bool) :
        (if c = 'Σ' then [if final then 'ς' else 'σ'] else lowerChar c).length =
          (if c = 'Σ' then [if final' then 'ς' else 'σ'] else lowerChar c).length := by
      split <;> rfl
    rw [lowerWithin, lowerWithin, List.length_append, List.length_append, hpiece,
      ih (casedAfter before [c]) (casedAfter before' [c])]

theorem toNat_ofNat (n : Nat) : (Char.ofNat n).toNat = n ∨ (Char.ofNat n).toNat = 0 := by
  by_cases h : n.isValidChar
  · exact .inl (congrArg Char.toNat (dif_pos h))
  · exact .inr (congrArg Char.toNat (dif_neg h))

/-- A mapping that leads beyond a sign leads to it from no other character. -/
theorem eq_of_mem_mapChar {sequences : List (Nat × List Nat)} {ranges : List CaseRange} {c d : Char}
    (hsequences : ∀ e ∈ sequences, ∀ n ∈ e.2, d.toNat < n)
    (hranges : ∀ r ∈ ranges, (d.toNat : Int) < r.first + r.shift) (hpos : 0 < d.toNat)
    (h : d ∈ mapChar sequences ranges c) : d = c := by
  have hbeyond (n : Nat) (hn : d.toNat < n) : d ≠ Char.ofNat n := by
    rintro rfl
    rcases toNat_ofNat n with h | h <;> omega
  unfold mapChar at h
  split at h
  · rename_i codes hcodes
    obtain ⟨n, hn, rfl⟩ := List.mem_map.1 h
    obtain ⟨before, after, rfl, -⟩ := List.lookup_eq_some_iff.1 hcodes
    exact (hbeyond n (hsequences _ (List.mem_append_right _ List.mem_cons_self) n hn) rfl).elim
  · split at h
    · rename_i r hr
      have hcovers : r.first ≤ c.toNat := by
        have := List.find?_some hr
        simp [CaseRange.covers] at this
        exact this.1.1
      have hr := hranges r (List.mem_of_find?_eq_some hr)
      exact (hbeyond _ (by omega) (List.mem_singleton.1 h)).elim
    · exact List.mem_singleton.1 h

theorem of_isAscii {p : Char → Prop} (h : ∀ n < 0x80, p (Char.ofNat n)) {c : Char}
    (hc : isAscii c = true) : p c := by
  have := h c.toNat (by simpa [isAscii] using hc)
  rwa [Char.ofNat_toNat] at this

/-- A sign below the small letters comes up in the lower case of no character but itself. -/
theorem eq_of_mem_lowerChar {c d : Char} (h : d ∈ lowerChar c) (hpos : 0 < d.toNat)
    (hsmall : d.toNat ≤ 0x60) : d = c := by
  unfold lowerChar at h
  split at h
  · rename_i hascii
    have hc := of_isAscii (p := fun c => c.toLower = c ∨ 0x60 < c.toLower.toNat) (by decide) hascii
    rw [← List.mem_singleton.1 h] at hc
    exact hc.resolve_right (by omega)
  · have hsequences : ∀ e ∈ lowerSequences, ∀ n ∈ e.2, 0x60 < n := by decide
    have hranges : ∀ r ∈ lowerRanges, (0x60 : Int) < r.first + r.shift := by decide +kernel
    refine eq_of_mem_mapChar (fun e he n hn => ?_) (fun r hr => ?_) hpos h
    · have := hsequences e he n hn
      omega
    · have := hranges r hr
      omega

/-- Two places give a part the same lower case if they give the same form to every sigma of it. -/
theorem lowerWithin_eq_iff {before after before' after' : Bool} {cs : List Char} :
    lowerWithin before after cs = lowerWithin before' after' cs ↔
      ∀ p q, cs = p ++ 'Σ' :: q →
        isFinal (casedAfter before p) (casedBefore after q) =
          isFinal (casedAfter before' p) (casedBefore after' q) := by
  induction cs generalizing before before' with
  | nil => simp [lowerWithin]
  | cons c cs ih =>
    have hsplit (P : List Char → List Char → Prop) : (∀ p q, c :: cs = p ++ 'Σ' :: q → P p q) ↔
        (c = 'Σ' → P [] cs) ∧ ∀ p q, cs = p ++ 'Σ' :: q → P (c :: p) q := by
      constructor
      · intro h
        exact ⟨fun hc => h [] cs (by rw [hc]; rfl), fun p q hpq => h (c :: p) q (by rw [hpq]; rfl)⟩
      · rintro ⟨hhere, hlater⟩ p q hpq
        cases p with
        | nil =>
          obtain ⟨rfl, rfl⟩ := List.cons.inj hpq
          exact hhere rfl
        | cons d p =>
          obtain ⟨rfl, hcs⟩ := List.cons.inj hpq
          exact hlater p q hcs
    have hrest := @ih (casedAfter before [c]) (casedAfter before' [c])
    simp only [← casedAfter_append, List.singleton_append] at hrest
    rw [hsplit, ← hrest, lowerWithin, lowerWithin]
    by_cases hc : c = 'Σ'
    · have hform (final final' : Bool) :
          (if final then 'ς' else 'σ') = (if final' then 'ς' else 'σ') ↔ final = final' := by
        cases final <;> cases final' <;> decide
      subst hc
      rw [if_pos rfl, if_pos rfl, List.singleton_append, List.singleton_append,
        List.cons.injEq, hform]
      simp [casedAfter]
    · simp [hc]

theorem casedAfter_of_ignorable {cs : List Char} (h : cs.all isCaseIgnorable = true)
    (before : Bool) : casedAfter before cs = before := by
  induction cs with
  | nil => rfl
  | cons c cs ih =>
    rw [List.all_cons, Bool.and_eq_true] at h
    simp [casedAfter, h.1, ih h.2]

theorem casedAfter_of_not_ignorable {cs : List Char} (h : cs.all isCaseIgnorable = false)
    (before before' : Bool) : casedAfter before cs = casedAfter before' cs := by
  induction cs generalizing before before' with
  | nil => cases h
  | cons c cs ih =>
    by_cases hc : isCaseIgnorable c
    · simpa [casedAfter, hc] using ih (by simpa [hc] using h) before before'
    · simp [casedAfter, hc]

theorem casedBefore_of_ignorable {cs : List Char} (h : cs.all isCaseIgnorable = true)
    (after : Bool) : casedBefore after cs = after := by
  induction cs with
  | nil => rfl
  | cons c cs ih =>
    rw [List.all_cons, Bool.and_eq_true] at h
    simp [casedBefore, h.1, ih h.2]

theorem casedBefore_of_not_ignorable {cs : List Char} (h : cs.all isCaseIgnorable = false)
    (after after' : Bool) : casedBefore after cs = casedBefore after' cs := by
  induction cs with
  | nil => cases h
  | cons c cs ih =>
    by_cases hc : isCaseIgnorable c
    · simpa [casedBefore, hc] using ih (by simpa [hc] using h)
    · simp [casedBefore, hc]

/-- A sigma of the part is written in one form where the part stands and in the other where the part
is alone. Either it is the last of the part to count, so that alone it is final behind a letter with
case, but the text goes on with one; or it is the first to count, so that alone it is not final, but
the text before it ends in a letter with case and none follows. -/
def TurnsSigma (before part after : List Char) : Prop :=
  ∃ p q, part = p ++ 'Σ' :: q ∧
    (casedAfter false p = true ∧ q.all isCaseIgnorable = true ∧ startsCased after = true ∨
      p.all isCaseIgnorable = true ∧ casedAfter false before = true ∧
        startsCased (q ++ after) = false)

theorem lowerWithin_eq_alone_iff {before part after : List Char} :
    lowerWithin (casedAfter false before) (startsCased after) part = lowerWithin false false part ↔
      ¬TurnsSigma before part after := by
  simp only [lowerWithin_eq_iff, TurnsSigma, not_exists, not_and]
  refine forall₂_congr fun p q => imp_congr_right fun _ => ?_
  rw [startsCased_eq after, startsCased_eq (q ++ after), casedBefore_append]
  -- what counts on either side of the sigma is in the part unless all there can be ignored
  cases hp : p.all isCaseIgnorable with
  | true =>
    rw [casedAfter_of_ignorable hp, casedAfter_of_ignorable hp]
    cases casedAfter false before <;> simp [isFinal]
  | false =>
    rw [casedAfter_of_not_ignorable hp _ false]
    cases hq : q.all isCaseIgnorable with
    | true =>
      rw [casedBefore_of_ignorable hq, casedBefore_of_ignorable hq]
      simp [isFinal]
    | false => simp [casedBefore_of_not_ignorable hq _ false]

end Text
end SynonymLookup
