import Mathlib.Data.List.Infix
import SynonymLookup.Wording.Template

/-! Templates taken apart: texts without tokens, and the tokens between them. Tokens
never overlap, so a template can be taken apart in one way only, and what is written for
a token is not looked at again. -/

namespace SynonymLookup
namespace Wording

namespace Token

theorem mem_all (k : Token) : k ∈ all := by cases k <;> decide

/-- A token is a mark before a word, and has no other mark. -/
theorem exists_spelling_eq (k : Token) : ∃ word, k.spelling.toList = '@' :: word ∧ '@' ∉ word := by
  cases k <;> exact ⟨_, rfl, by decide⟩

/-- No token is the beginning of another. -/
theorem eq_of_spelling_begins {k k' : Token} (h : k.spelling.toList <+: k'.spelling.toList) :
    k = k' := by
  have hall : ∀ k ∈ all, ∀ k' ∈ all, k.spelling.toList <+: k'.spelling.toList → k = k' := by
    decide +kernel
  exact hall k k.mem_all k' k'.mem_all h

theorem eq_of_begins {k k' : Token} {cs : List Char} (h : k.spelling.toList <+: cs)
    (h' : k'.spelling.toList <+: cs) : k = k' := by
  rcases List.prefix_or_prefix_of_prefix h h' with hk | hk
  · exact eq_of_spelling_begins hk
  · exact (eq_of_spelling_begins hk).symm

end Token

variable {k : Token} {c : Char} {cs rest : List Char} {value : Token → List Char}

theorem mem_tokensAt_iff : k ∈ tokensAt cs ↔ k.spelling.toList <+: cs := by
  rw [tokensAt, List.mem_filter, Option.isSome_iff_exists]
  simp only [k.mem_all, true_and, Text.stripHead?_eq_some]
  exact exists_congr fun _ => eq_comm

theorem foldl_longer_mem (tokens : List Token) (k : Token) :
    tokens.foldl longer k ∈ k :: tokens := by
  induction tokens generalizing k with
  | nil => exact List.mem_singleton_self k
  | cons k' rest ih =>
    rw [List.foldl_cons]
    rcases List.mem_cons.1 (ih (longer k k')) with h | h
    · rw [h, longer]
      split <;> simp
    · exact List.mem_cons_of_mem _ (List.mem_cons_of_mem _ h)

theorem tokenAt?_eq_some_iff : tokenAt? cs = some k ↔ k.spelling.toList <+: cs := by
  unfold tokenAt?
  cases h : tokensAt cs with
  | nil =>
    refine ⟨nofun, fun hk => ?_⟩
    rw [← mem_tokensAt_iff, h] at hk
    cases hk
  | cons k' rest =>
    -- all tokens of the list are the one that the text begins with
    have hfound := foldl_longer_mem rest k'
    rw [← h, mem_tokensAt_iff] at hfound
    exact ⟨fun heq => Option.some.inj heq ▸ hfound,
      fun hk => congrArg some (Token.eq_of_begins hfound hk)⟩

theorem tokenAt?_eq_none_iff : tokenAt? cs = none ↔ ∀ k : Token, ¬ k.spelling.toList <+: cs := by
  simp only [← tokenAt?_eq_some_iff, Option.eq_none_iff_forall_ne_some, ne_eq]

theorem tokenAt?_token (k : Token) (rest : List Char) :
    tokenAt? (k.spelling.toList ++ rest) = some k :=
  tokenAt?_eq_some_iff.2 (List.prefix_append _ _)

section Render

theorem renderChars_skip (value : Token → List Char) (skip : Nat) (cs : List Char) :
    renderChars value skip cs = renderChars value 0 (cs.drop skip) := by
  induction skip generalizing cs with
  | zero => rfl
  | succ skip ih =>
    cases cs with
    | nil => rfl
    | cons c rest => rw [renderChars, ih, List.drop_succ_cons]

theorem renderChars_token (value : Token → List Char) (k : Token) (rest : List Char) :
    renderChars value 0 (k.spelling.toList ++ rest) = value k ++ renderChars value 0 rest := by
  obtain ⟨word, hk, -⟩ := k.exists_spelling_eq
  have hat := tokenAt?_token k rest
  have hlength : k.spelling.length - 1 = word.length := by
    rw [← String.length_toList, hk, List.length_cons, Nat.add_sub_cancel]
  rw [hk, List.cons_append] at hat ⊢
  simp only [renderChars, hat]
  rw [renderChars_skip, hlength, List.drop_left]

theorem renderChars_char (value : Token → List Char) (h : tokenAt? (c :: rest) = none) :
    renderChars value 0 (c :: rest) = c :: renderChars value 0 rest := by
  simp only [renderChars, h]

theorem render_fallback (values : Values) : render fallback values = values.synonym := by
  have hrender := renderChars_token (fun k => (values.get k).toList) .synonym []
  rw [List.append_nil] at hrender
  change String.ofList (renderChars _ 0 Token.synonym.spelling.toList) = _
  rw [hrender]
  simp [renderChars, Values.get]

end Render

/-- A template is empty, or it begins with a token or else with a character that
stands for itself. -/
@[elab_as_elim]
theorem template_induction {motive : List Char → Prop} (nil : motive [])
    (token : ∀ (k : Token) rest, motive rest → motive (k.spelling.toList ++ rest))
    (char : ∀ c rest, tokenAt? (c :: rest) = none → motive rest → motive (c :: rest))
    (cs : List Char) : motive cs := by
  induction hn : cs.length using Nat.strong_induction_on generalizing cs with
  | h n ih =>
    cases cs with
    | nil => exact nil
    | cons c rest =>
      cases hat : tokenAt? (c :: rest) with
      | none => exact char c rest hat (ih rest.length (by simp [← hn]) rest rfl)
      | some k =>
        obtain ⟨more, hmore⟩ := tokenAt?_eq_some_iff.1 hat
        obtain ⟨word, hk, -⟩ := k.exists_spelling_eq
        have hlt : more.length < n := by
          rw [← hn, ← hmore, hk, List.length_append, List.length_cons]
          omega
        rw [← hmore]
        exact token k more (ih more.length hlt more rfl)

/-- A template taken apart: a text, then tokens, each with the text behind it. -/
structure Parts where
  head : List Char
  tail : List (Token × List Char)

namespace Parts

def texts (p : Parts) : List (List Char) := p.head :: p.tail.map (·.2)

def fill (p : Parts) (value : Token → List Char) : List Char :=
  p.head ++ p.tail.flatMap fun part => value part.1 ++ part.2

/-- The parts make up the template, and no token occurs within a text between tokens. -/
structure Of (p : Parts) (template : List Char) : Prop where
  plain : ∀ text ∈ p.texts, ∀ k : Token, ¬ k.spelling.toList <:+: text
  whole : p.fill (fun k => k.spelling.toList) = template

def onToken (k : Token) (p : Parts) : Parts := ⟨[], (k, p.head) :: p.tail⟩

def onChar (c : Char) (p : Parts) : Parts := ⟨c :: p.head, p.tail⟩

variable {p q : Parts}

@[simp] theorem fill_onToken : (onToken k p).fill value = value k ++ p.fill value := by
  simp [onToken, fill]

@[simp] theorem fill_onChar : (onChar c p).fill value = c :: p.fill value := rfl

theorem of_nil_iff : q.Of [] ↔ q = ⟨[], []⟩ := by
  constructor
  · rintro ⟨-, hwhole⟩
    obtain ⟨head, tail⟩ := q
    obtain ⟨rfl, hnone⟩ := List.append_eq_nil_iff.1 hwhole
    cases tail with
    | nil => rfl
    | cons part more =>
      obtain ⟨word, hk, -⟩ := part.1.exists_spelling_eq
      simp [hk] at hnone
  · rintro rfl
    refine ⟨fun text htext k hk => ?_, rfl⟩
    obtain rfl : text = [] := by simpa [texts] using htext
    obtain ⟨word, hword, -⟩ := k.exists_spelling_eq
    simp [hword] at hk

/-- No text stands before a token that a template begins with: it would hold the token, or the
token would have a second mark. -/
theorem Of.head_eq_nil (h : q.Of (k.spelling.toList ++ rest)) : q.head = [] := by
  obtain ⟨hplain, hwhole⟩ := h
  have hfree : ∀ k : Token, ¬ k.spelling.toList <:+: q.head := hplain q.head List.mem_cons_self
  by_contra hne
  obtain ⟨c, text, hhead⟩ := List.exists_cons_of_ne_nil hne
  obtain ⟨word, hk, hword⟩ := k.exists_spelling_eq
  rcases List.append_eq_append_iff.1 hwhole with ⟨d, hd, hlater⟩ | ⟨d, hd, -⟩
  · cases d with
    | nil =>
      rw [List.append_nil] at hd
      exact hfree k (hd ▸ List.infix_refl _)
    | cons mark later =>
      -- what follows the text is a token, whose mark falls into the word of the first one
      cases htail : q.tail with
      | nil => simp [htail] at hlater
      | cons part more =>
        obtain ⟨word', hk', -⟩ := part.1.exists_spelling_eq
        obtain ⟨rfl, -⟩ : mark = '@' ∧ _ := by simpa [htail, hk', eq_comm] using hlater
        rw [hk, hhead, List.cons_append, List.cons.injEq] at hd
        exact hword (hd.2 ▸ List.mem_append_right _ List.mem_cons_self)
  · exact hfree k (hd ▸ (List.prefix_append _ _).isInfix)

theorem of_token_iff : q.Of (k.spelling.toList ++ rest) ↔ ∃ p, p.Of rest ∧ q = onToken k p := by
  constructor
  · intro h
    have hhead := h.head_eq_nil
    obtain ⟨hplain, hwhole⟩ := h
    obtain ⟨head, tail⟩ := q
    obtain rfl : head = [] := hhead
    obtain ⟨word, hk, -⟩ := k.exists_spelling_eq
    cases tail with
    | nil => simp [fill, hk] at hwhole
    | cons part more =>
      obtain ⟨k', text⟩ := part
      have hwhole' : k'.spelling.toList ++ fill ⟨text, more⟩ (fun k => k.spelling.toList) =
          k.spelling.toList ++ rest := by simpa [fill] using hwhole
      obtain rfl : k' = k :=
        Token.eq_of_begins ⟨_, hwhole'⟩ (List.prefix_append _ _)
      refine ⟨⟨text, more⟩, ⟨fun t ht => hplain t (List.mem_cons_of_mem _ ht), ?_⟩, rfl⟩
      exact List.append_cancel_left hwhole'
  · rintro ⟨p, ⟨hplain, hwhole⟩, rfl⟩
    refine ⟨fun text htext k' hk' => ?_, by rw [fill_onToken, hwhole]⟩
    rcases List.mem_cons.1 htext with rfl | htext
    · obtain ⟨word, hword, -⟩ := k'.exists_spelling_eq
      simp [onToken, hword] at hk'
    · exact hplain text htext k' hk'

theorem of_char_iff (hat : tokenAt? (c :: rest) = none) :
    q.Of (c :: rest) ↔ ∃ p, p.Of rest ∧ q = onChar c p := by
  rw [tokenAt?_eq_none_iff] at hat
  constructor
  · rintro ⟨hplain, hwhole⟩
    obtain ⟨head, tail⟩ := q
    cases head with
    | nil =>
      cases tail with
      | nil => cases hwhole
      | cons part more =>
        have hbegins : part.1.spelling.toList ++ fill ⟨part.2, more⟩ (fun k => k.spelling.toList) =
            c :: rest := by simpa [fill] using hwhole
        exact absurd ⟨_, hbegins⟩ (hat part.1)
    | cons c' text =>
      obtain ⟨rfl, hrest⟩ := List.cons.inj hwhole
      refine ⟨⟨text, tail⟩, ⟨fun t ht k hk => ?_, hrest⟩, rfl⟩
      rcases List.mem_cons.1 ht with rfl | ht
      · exact hplain _ List.mem_cons_self k (List.infix_cons hk)
      · exact hplain t (List.mem_cons_of_mem _ ht) k hk
  · rintro ⟨p, ⟨hplain, hwhole⟩, rfl⟩
    refine ⟨fun text htext k hk => ?_, by rw [fill_onChar, hwhole]⟩
    rcases List.mem_cons.1 htext with rfl | htext
    · rcases List.infix_cons_iff.1 hk with hk | hk
      · refine hat k (hk.trans ?_)
        rw [← hwhole]
        exact List.prefix_append (c :: p.head) _
      · exact hplain p.head List.mem_cons_self k hk
    · exact hplain text (List.mem_cons_of_mem _ htext) k hk

/-- There is one way to take a template apart, and what stands for the tokens is written between its
texts. -/
theorem exists_of_template (cs : List Char) : ∃ p : Parts, (∀ q : Parts, q.Of cs ↔ q = p) ∧
    ∀ value, renderChars value 0 cs = p.fill value := by
  induction cs using template_induction with
  | nil => exact ⟨⟨[], []⟩, fun q => of_nil_iff, fun value => rfl⟩
  | token k rest ih =>
    obtain ⟨p, hp, hrender⟩ := ih
    refine ⟨onToken k p, fun q => ?_, fun value => ?_⟩
    · simp only [of_token_iff, hp, exists_eq_left]
    · rw [renderChars_token, hrender, fill_onToken]
  | char c rest hat ih =>
    obtain ⟨p, hp, hrender⟩ := ih
    refine ⟨onChar c p, fun q => ?_, fun value => ?_⟩
    · simp only [of_char_iff hat, hp, exists_eq_left]
    · rw [renderChars_char value hat, hrender, fill_onChar]

end Parts

/-- A template is written in exactly one way as texts in which no token occurs and tokens
between them. Rendering keeps the texts and writes for every token what it stands for: what is
written is never read again, even if it spells a token or makes one up with the text around it,
and marks that begin no token stay. -/
theorem render_simultaneous (template : String) :
    ∃ parts : Parts, (∀ other : Parts, other.Of template.toList ↔ other = parts) ∧
      ∀ values : Values,
        render template values = String.ofList (parts.fill fun k => (values.get k).toList) := by
  obtain ⟨parts, hunique, hrender⟩ := Parts.exists_of_template template.toList
  exact ⟨parts, hunique, fun values => by rw [render, hrender]⟩

example : render "@@synonym of @bundles @nowhere" { synonym := "@bund", bundleLabel := "Fox" } =
    "@@bund of foxs @nowhere" := by decide +kernel

end Wording
end SynonymLookup
