import Mathlib.Data.Prod.Lex
import SynonymLookup.Decimal.Numeral

/-! Numbers in their order, and the characters they are spelt with. -/

namespace SynonymLookup
namespace Binary64

/-- The place of a number in their order: whether it is finite, and its units. -/
def rank? : Binary64 → Option (Int ×ₗ Int)
  | .nan => none
  | .infinite negative => some (toLex (if negative then -1 else 1, 0))
  | .finite negative units => some (toLex (0, if negative then -units else units))

theorem compare?_eq_lt_iff {x y : Binary64} :
    x.compare? y = some .lt ↔ ∃ i j, x.rank? = some i ∧ y.rank? = some j ∧ i < j := by
  cases x with
  | nan => simp [compare?_nan_left, rank?]
  | infinite s =>
    cases y with
    | nan => simp [compare?_nan_right, rank?]
    | infinite t => cases s <;> cases t <;> simp [compare?, rank?, Prod.Lex.toLex_lt_toLex]
    | finite t v => cases s <;> simp [compare?, rank?, Prod.Lex.toLex_lt_toLex]
  | finite s u =>
    cases y with
    | nan => simp [compare?_nan_right, rank?]
    | infinite t => cases t <;> simp [compare?, rank?, Prod.Lex.toLex_lt_toLex]
    | finite t v => simp [compare?, rank?, Prod.Lex.toLex_lt_toLex, compare_lt_iff_lt]

theorem compare?_lt_trans {x y z : Binary64} (hxy : x.compare? y = some .lt)
    (hyz : y.compare? z = some .lt) : x.compare? z = some .lt := by
  obtain ⟨i, j, hx, hy, hij⟩ := compare?_eq_lt_iff.1 hxy
  obtain ⟨j', k, hy', hz, hjk⟩ := compare?_eq_lt_iff.1 hyz
  obtain rfl := Option.some.inj (hy.symm.trans hy')
  exact compare?_eq_lt_iff.2 ⟨i, k, hx, hz, hij.trans hjk⟩

theorem compare?_lt_asymm {x y : Binary64} (h : x.compare? y = some .lt) :
    y.compare? x ≠ some .lt := by
  intro h'
  obtain ⟨i, j, hi, hj, hij⟩ := compare?_eq_lt_iff.1 (compare?_lt_trans h h')
  exact hij.ne (Option.some.inj (hi.symm.trans hj))

/-- The characters that a numeral has are of these: they can be seen, and have no accents. -/
def isVisible (c : Char) : Bool := 0x20 < c.toNat && c.toNat < 0x80

theorem isVisible_of_digitValue? {c : Char} {d : Nat} (h : digitValue? c = some d) :
    isVisible c = true := by
  unfold digitValue? at h
  split at h
  · rename_i hdigit
    have hlow : '0'.toNat ≤ c.toNat := hdigit.1
    have hhigh : c.toNat ≤ '9'.toNat := hdigit.2
    simp only [isVisible, Bool.and_eq_true, decide_eq_true_eq]
    exact ⟨Nat.lt_of_lt_of_le (by decide) hlow, Nat.lt_of_le_of_lt hhigh (by decide)⟩
  · cases h

theorem isVisible_of_toLower {c : Char} (h : isVisible c.toLower = true) : isVisible c = true := by
  unfold Char.toLower at h
  split at h
  · rename_i hupper
    have hlow : 65 ≤ c.toNat := hupper.1
    have hhigh : c.toNat ≤ 90 := hupper.2
    simp only [isVisible, Bool.and_eq_true, decide_eq_true_eq]
    omega
  · exact h

theorem takeDigits_all {acc count : Nat} {cs : List Char} {n k : Nat} {rest : List Char}
    (h : takeDigits acc count cs = (n, k, rest)) (hrest : rest.all isVisible = true) :
    cs.all isVisible = true := by
  induction cs generalizing acc count with
  | nil => rfl
  | cons c cs ih =>
    unfold takeDigits at h
    split at h
    · rename_i d hd
      rw [List.all_cons, isVisible_of_digitValue? hd, ih h, Bool.true_and]
    · cases h
      exact hrest

theorem exponentPart?_all {cs : List Char} {e : Int} (h : exponentPart? cs = some e) :
    cs.all isVisible = true := by
  cases cs with
  | nil => rfl
  | cons c rest =>
    by_cases hletter : c = 'e' ∨ c = 'E'
    · have hc : isVisible c = true := by rcases hletter with rfl | rfl <;> rfl
      rw [List.all_cons, hc, Bool.true_and]
      simp only [exponentPart?, if_pos hletter] at h
      split at h
      · rename_i hdigits
        have hall := takeDigits_all hdigits rfl
        -- a sign in front of the digits is visible too
        split at hall
        · rwa [List.all_cons, show isVisible '+' = true from rfl, Bool.true_and]
        · rwa [List.all_cons, show isVisible '-' = true from rfl, Bool.true_and]
        · exact hall
      · cases h
    · simp only [exponentPart?, if_neg hletter] at h
      cases h

theorem ofUnsignedDigits?_all {negative : Bool} {cs : List Char} {x : Binary64}
    (h : ofUnsignedDigits? negative cs = some x) : cs.all isVisible = true := by
  obtain ⟨whole, count, rest, hwhole⟩ : ∃ n k rest, takeDigits 0 0 cs = (n, k, rest) :=
    ⟨_, _, _, rfl⟩
  refine takeDigits_all hwhole ?_
  simp only [ofUnsignedDigits?, hwhole] at h
  split at h
  · obtain ⟨-, h⟩ := Option.ite_none_left_eq_some.1 h
    obtain ⟨e, he, -⟩ := Option.map_eq_some_iff.1 h
    rw [List.all_cons, takeDigits_all rfl (exponentPart?_all he)]
    rfl
  · obtain ⟨-, h⟩ := Option.ite_none_left_eq_some.1 h
    obtain ⟨e, he, -⟩ := Option.map_eq_some_iff.1 h
    exact exponentPart?_all he

theorem ofUnsigned?_all {negative : Bool} {cs : List Char} {x : Binary64}
    (h : ofUnsigned? negative cs = some x) : cs.all isVisible = true := by
  have hword {word : List Char} (hlower : cs.map Char.toLower = word)
      (hall : word.all isVisible = true) : cs.all isVisible = true := by
    rw [← hlower, List.all_map, List.all_eq_true] at hall
    exact List.all_eq_true.2 fun c hc => isVisible_of_toLower (hall c hc)
  unfold ofUnsigned? at h
  dsimp only at h
  split at h
  · rename_i hinfinity
    rcases hinfinity with hinf | hinf
    · exact hword hinf rfl
    · exact hword hinf rfl
  · split at h
    · rename_i hnan
      exact hword hnan rfl
    · exact ofUnsignedDigits?_all h

theorem ofText?_all {s : String} {x : Binary64} (h : ofText? s = some x) :
    s.toList.all isVisible = true := by
  unfold ofText? at h
  split at h
  · rename_i hs
    rw [hs, List.all_cons, ofUnsigned?_all h]
    rfl
  · rename_i hs
    rw [hs, List.all_cons, ofUnsigned?_all h]
    rfl
  · exact ofUnsigned?_all h

end Binary64
end SynonymLookup
