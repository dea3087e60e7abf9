import Mathlib.Data.List.Basic

/-! The first entry of each key in a list, in order. Entries whose keys were seen before are left
out, so that a list can be gone through in parts. -/

namespace SynonymLookup

variable {α β κ : Type} [BEq κ]

/-- The first entry of each key that is not among those seen. -/
def firstsBy (key : α → κ) (seen : List κ) (l : List α) : List α :=
  (l.filter fun a => !seen.contains (key a)).eraseDupsBy fun a b => key a == key b

variable {key : α → κ} {seen : List κ}

theorem firstsBy_nil_seen (l : List α) :
    firstsBy key [] l = l.eraseDupsBy fun a b => key a == key b := by simp [firstsBy]

theorem firstsBy_map (f : β → α) (l : List β) :
    firstsBy key seen (l.map f) = (firstsBy (fun b => key (f b)) seen l).map f := by
  have hloop (l seen : List β) : List.eraseDupsBy.loop (fun a b => key a == key b) (l.map f)
      (seen.map f) = (List.eraseDupsBy.loop (fun a b => key (f a) == key (f b)) l seen).map f := by
    induction l generalizing seen with
    | nil => simp [List.eraseDupsBy.loop]
    | cons b rest ih =>
      rw [List.map_cons, List.eraseDupsBy.loop, List.eraseDupsBy.loop, List.any_map,
        ← List.map_cons, ih, ih]
      simp only [Function.comp_def]
      split <;> rfl
  rw [firstsBy, firstsBy, List.filter_map]
  exact hloop _ []

/-- A list gone through entry by entry, keeping those whose keys are new. -/
theorem reverse_foldl_eq_firstsBy (l : List α) :
    (l.foldl (fun kept a => if kept.any fun b => key a == key b then kept else a :: kept)
      []).reverse = firstsBy key [] l := by
  have hloop (kept : List α) :
      (l.foldl (fun kept a => if kept.any fun b => key a == key b then kept else a :: kept)
        kept).reverse = List.eraseDupsBy.loop (fun a b => key a == key b) l kept := by
    induction l generalizing kept with
    | nil => rfl
    | cons a rest ih =>
      rw [List.foldl_cons, ih, List.eraseDupsBy.loop]
      cases kept.any fun b => key a == key b <;> rfl
  rw [firstsBy_nil_seen]
  exact hloop []

variable [LawfulBEq κ]

theorem firstsBy_cons_of_mem {a : α} (h : key a ∈ seen) (l : List α) :
    firstsBy key seen (a :: l) = firstsBy key seen l := by
  rw [firstsBy, List.filter_cons_of_neg (by simpa using h), firstsBy]

theorem firstsBy_cons_of_not_mem {a : α} (h : key a ∉ seen) (l : List α) :
    firstsBy key seen (a :: l) = a :: firstsBy key (seen ++ [key a]) l := by
  have hlater : (l.filter fun b => decide ((key b == key a) = false) && !seen.contains (key b)) =
      l.filter fun b => !(seen ++ [key a]).contains (key b) := by
    refine List.filter_congr fun b _ => ?_
    by_cases hb : key b = key a <;> simp [hb]
  rw [firstsBy, List.filter_cons_of_pos (by simpa using h), List.eraseDupsBy_cons,
    List.filter_filter, hlater, firstsBy]

/-- The second part of a list is gone through with the keys of the first seen. -/
theorem firstsBy_append (l l' : List α) : firstsBy key seen (l ++ l') =
    firstsBy key seen l ++ firstsBy key (seen ++ (firstsBy key seen l).map key) l' := by
  induction l generalizing seen with
  | nil => simp [firstsBy]
  | cons a rest ih =>
    by_cases ha : key a ∈ seen
    · rw [List.cons_append, firstsBy_cons_of_mem ha, firstsBy_cons_of_mem ha, ih]
    · rw [List.cons_append, firstsBy_cons_of_not_mem ha, firstsBy_cons_of_not_mem ha, ih,
        List.cons_append, List.map_cons, List.append_assoc, List.singleton_append]

theorem mem_append_map_firstsBy {k : κ} {l : List α} :
    k ∈ seen ++ (firstsBy key seen l).map key ↔ k ∈ seen ++ l.map key := by
  induction l generalizing seen with
  | nil => rfl
  | cons a rest ih =>
    by_cases ha : key a ∈ seen
    · rw [firstsBy_cons_of_mem ha, ih, List.map_cons, List.mem_append, List.mem_append,
        List.mem_cons]
      refine ⟨fun h => h.imp_right .inr, fun h => ?_⟩
      rcases h with h | rfl | h
      · exact .inl h
      · exact .inl ha
      · exact .inr h
    · rw [firstsBy_cons_of_not_mem ha, List.map_cons, List.append_cons, ih, List.map_cons,
        ← List.append_cons]

/-- A number of entries can be taken from a list in parts: from the second part as
many as are missing. -/
theorem take_firstsBy_append (l l' : List α) (n : Nat) :
    (firstsBy key seen (l ++ l')).take n = (firstsBy key seen l).take n ++
      (firstsBy key (seen ++ ((firstsBy key seen l).take n).map key) l').take
        (n - ((firstsBy key seen l).take n).length) := by
  rw [firstsBy_append, List.take_append]
  rcases Nat.le_total (firstsBy key seen l).length n with hall | hmore
  · rw [List.take_of_length_le hall]
  · rw [List.length_take_of_le hmore, Nat.sub_eq_zero_of_le hmore, Nat.sub_self, List.take_zero,
      List.take_zero]

theorem firstsBy_of_nodup {l : List α} (h : (l.map key).Nodup) (hseen : ∀ a ∈ l, key a ∉ seen) :
    firstsBy key seen l = l := by
  induction l generalizing seen with
  | nil => rfl
  | cons a rest ih =>
    rw [List.map_cons, List.nodup_cons] at h
    have hrest : ∀ b ∈ rest, key b ∉ seen ++ [key a] := by
      intro b hb hmem
      rcases List.mem_append.1 hmem with hmem | hmem
      · exact hseen b (List.mem_cons_of_mem _ hb) hmem
      · rw [List.mem_singleton] at hmem
        exact h.1 (hmem ▸ List.mem_map_of_mem hb)
    rw [firstsBy_cons_of_not_mem (hseen a List.mem_cons_self), ih h.2 hrest]

theorem mem_of_mem_firstsBy {a : α} {l : List α} (h : a ∈ firstsBy key seen l) :
    a ∈ l ∧ key a ∉ seen := by
  induction l generalizing seen with
  | nil => cases h
  | cons b rest ih =>
    by_cases hb : key b ∈ seen
    · rw [firstsBy_cons_of_mem hb] at h
      exact ⟨List.mem_cons_of_mem _ (ih h).1, (ih h).2⟩
    · rw [firstsBy_cons_of_not_mem hb] at h
      rcases List.mem_cons.1 h with rfl | h
      · exact ⟨List.mem_cons_self, hb⟩
      · exact ⟨List.mem_cons_of_mem _ (ih h).1, fun hmem => (ih h).2 (List.mem_append_left _ hmem)⟩

theorem nodup_firstsBy (l : List α) : ((firstsBy key seen l).map key).Nodup := by
  induction l generalizing seen with
  | nil => exact List.nodup_nil
  | cons a rest ih =>
    by_cases ha : key a ∈ seen
    · rw [firstsBy_cons_of_mem ha]
      exact ih
    · have hnew : key a ∉ (firstsBy key (seen ++ [key a]) rest).map key := by
        intro hmem
        obtain ⟨b, hb, hsame⟩ := List.mem_map.1 hmem
        exact (mem_of_mem_firstsBy hb).2 (by simp [hsame])
      rw [firstsBy_cons_of_not_mem ha, List.map_cons, List.nodup_cons]
      exact ⟨hnew, ih⟩

theorem pairwise_idxOf_firstsBy (l : List α) : (firstsBy key seen l).Pairwise fun a b =>
    (l.map key).idxOf (key a) < (l.map key).idxOf (key b) := by
  induction l generalizing seen with
  | nil => exact .nil
  | cons first rest ih =>
    have hlater {a b : α} (ha : key a ≠ key first) (hb : key b ≠ key first)
        (h : (rest.map key).idxOf (key a) < (rest.map key).idxOf (key b)) :
        ((first :: rest).map key).idxOf (key a) < ((first :: rest).map key).idxOf (key b) := by
      simpa [List.idxOf_cons_ne _ ha.symm, List.idxOf_cons_ne _ hb.symm] using h
    by_cases hfirst : key first ∈ seen
    · have hne : ∀ a ∈ firstsBy key seen rest, key a ≠ key first :=
        fun a ha hsame => (mem_of_mem_firstsBy ha).2 (hsame ▸ hfirst)
      rw [firstsBy_cons_of_mem hfirst]
      exact ih.imp_of_mem fun ha hb h => hlater (hne _ ha) (hne _ hb) h
    · have hne : ∀ a ∈ firstsBy key (seen ++ [key first]) rest, key a ≠ key first :=
        fun a ha hsame => (mem_of_mem_firstsBy ha).2 (by simp [hsame])
      rw [firstsBy_cons_of_not_mem hfirst, List.pairwise_cons]
      refine ⟨fun a ha => ?_, ih.imp_of_mem fun ha hb h => hlater (hne _ ha) (hne _ hb) h⟩
      simp [List.idxOf_cons_ne _ (hne a ha).symm]

theorem firstsBy_filter {keep : α → Bool} {l : List α}
    (h : ∀ a ∈ l, keep a = false → key a ∈ seen) :
    firstsBy key seen (l.filter keep) = firstsBy key seen l := by
  have hkept : (l.filter fun a => !seen.contains (key a) && keep a) =
      l.filter fun a => !seen.contains (key a) := by
    refine List.filter_congr fun a ha => ?_
    cases hkeep : keep a with
    | true => simp
    | false => simpa using h a ha hkeep
  rw [firstsBy, List.filter_filter, hkept, firstsBy]

theorem find?_firstsBy {test : α → Bool} (htest : ∀ a b, key a = key b → test a = test b)
    {l : List α} (hseen : ∀ a ∈ l, key a ∈ seen → test a = false) :
    (firstsBy key seen l).find? test = l.find? test := by
  induction l generalizing seen with
  | nil => rfl
  | cons a rest ih =>
    have hrest : ∀ b ∈ rest, key b ∈ seen → test b = false := fun b hb =>
      hseen b (List.mem_cons_of_mem _ hb)
    by_cases ha : key a ∈ seen
    · have hfail : test a = false := hseen a List.mem_cons_self ha
      rw [firstsBy_cons_of_mem ha, ih hrest, List.find?_cons_of_neg (by simp [hfail])]
    · rw [firstsBy_cons_of_not_mem ha]
      cases hpass : test a with
      | true => rw [List.find?_cons_of_pos hpass, List.find?_cons_of_pos hpass]
      | false =>
        have hlater : ∀ b ∈ rest, key b ∈ seen ++ [key a] → test b = false := by
          intro b hb hmem
          rcases List.mem_append.1 hmem with hmem | hmem
          · exact hrest b hb hmem
          · rw [htest b a (List.mem_singleton.1 hmem), hpass]
        rw [List.find?_cons_of_neg (by simp [hpass]), List.find?_cons_of_neg (by simp [hpass]),
          ih hlater]

theorem firstsBy_eq_nil {l : List α} (h : ∀ a ∈ l, key a ∈ seen) : firstsBy key seen l = [] := by
  refine List.eq_nil_iff_forall_not_mem.2 fun a ha => ?_
  obtain ⟨hmem, hnew⟩ := mem_of_mem_firstsBy ha
  exact hnew (h a hmem)

theorem firstsBy_append_of_mem {l l' : List α} (h : ∀ a ∈ l', key a ∈ seen ++ l.map key) :
    firstsBy key seen (l ++ l') = firstsBy key seen l := by
  rw [firstsBy_append, firstsBy_eq_nil fun a ha => mem_append_map_firstsBy.2 (h a ha),
    List.append_nil]

theorem firstsBy_of_unseen {l : List α} (h : ∀ a ∈ l, key a ∉ seen) :
    firstsBy key seen l = firstsBy key [] l := by
  have hall : l.filter (fun a => !seen.contains (key a)) = l :=
    List.filter_eq_self.2 fun a ha => by simpa using h a ha
  rw [firstsBy, hall, firstsBy_nil_seen]

theorem firstsBy_flatMap {γ : Type} {f : γ → List α} {l : List γ}
    (h : l.Pairwise fun c c' => ∀ a ∈ f c, ∀ a' ∈ f c', key a ≠ key a') :
    firstsBy key [] (l.flatMap f) = l.flatMap fun c => firstsBy key [] (f c) := by
  induction l with
  | nil => rfl
  | cons c rest ih =>
    rw [List.pairwise_cons] at h
    have hunseen : ∀ a' ∈ rest.flatMap f, key a' ∉ [] ++ (firstsBy key [] (f c)).map key := by
      intro a' ha' hmem
      obtain ⟨c', hc', ha'⟩ := List.mem_flatMap.1 ha'
      obtain ⟨a, ha, hsame⟩ := List.mem_map.1 hmem
      exact h.1 c' hc' a (mem_of_mem_firstsBy ha).1 a' ha' hsame
    rw [List.flatMap_cons, firstsBy_append, firstsBy_of_unseen hunseen, ih h.2, List.flatMap_cons]

theorem firstsBy_comp {κ' : Type} [BEq κ'] [LawfulBEq κ'] {g : κ → κ'}
    (hg : ∀ {x y}, g x = g y ↔ x = y) (key : α → κ) (l : List α) :
    firstsBy (fun a => g (key a)) [] l = firstsBy key [] l := by
  have hsame : (fun a b => g (key a) == g (key b)) = fun a b => key a == key b := by
    funext a b
    rw [Bool.eq_iff_iff, beq_iff_eq, beq_iff_eq, hg]
  rw [firstsBy_nil_seen, firstsBy_nil_seen, hsame]

end SynonymLookup
