import SynonymLookup.Startup.Sources

/-! The search for files of options. Places and stems are tried in order, at each the variant for
the profile before the plain file, and the first plain file is the last that counts. -/

namespace SynonymLookup
namespace Startup

/-- For a path, two trees have the same: nothing, or something that reads the same. -/
def FileTree.SameAt (t t' : FileTree) (path : String) : Prop :=
  t'.has path = t.has path ∧ (t.has path = true → t'.text? path = t.text? path)

namespace Sources

variable {s : Sources}

def upToPlain (s : Sources) (l : List (String × String)) : List (String × String) :=
  l.take (l.findIdx (fun c => s.directory.has (plainOf c)) + 1)

def counted (s : Sources) : List (String × String) := s.upToPlain s.candidates

def pathsAt (s : Sources) (c : String × String) : List String :=
  [s.variantOf c, plainOf c].filter s.directory.has

theorem found_cons (s : Sources) (c : String × String) (rest : List (String × String)) :
    s.found (c :: rest) =
      s.pathsAt c ++ if s.directory.has (plainOf c) then [] else s.found rest := by
  rw [found, pathsAt]
  cases hvariant : s.directory.has (s.variantOf c) <;>
    cases hplain : s.directory.has (plainOf c) <;> simp [hvariant, hplain]

theorem upToPlain_cons (s : Sources) (c : String × String) (rest : List (String × String)) :
    s.upToPlain (c :: rest) =
      c :: if s.directory.has (plainOf c) then [] else s.upToPlain rest := by
  unfold upToPlain
  rw [List.findIdx_cons]
  cases s.directory.has (plainOf c) <;> simp

theorem found_eq (s : Sources) (l : List (String × String)) :
    s.found l = (s.upToPlain l).flatMap s.pathsAt := by
  induction l with
  | nil => rfl
  | cons c rest ih =>
    rw [found_cons, upToPlain_cons, ih]
    cases s.directory.has (plainOf c) <;> simp

theorem paths_eq_found (h : s.file = none) : s.paths = .ok (s.found s.candidates) := by
  rw [paths, h]
  rfl

theorem paths_eq (h : s.file = none) : s.paths = .ok (s.counted.flatMap s.pathsAt) := by
  rw [paths_eq_found h, found_eq, counted]

theorem mapM_congr_mem {α β : Type} {f g : α → Option β} {l : List α} (h : ∀ a ∈ l, f a = g a) :
    l.mapM f = l.mapM g := by
  induction l with
  | nil => rfl
  | cons a rest ih =>
    rw [List.mapM_cons, List.mapM_cons, h a List.mem_cons_self,
      ih fun b hb => h b (List.mem_cons_of_mem a hb)]

section OtherTree

variable {t : FileTree}

theorem document?_congr {path : String} (h : s.directory.SameAt t path)
    (hpath : s.directory.has path = true) :
    document? { s with directory := t } path = s.document? path := by
  unfold document?
  rw [h.2 hpath]

theorem pathsAt_congr {c : String × String}
    (h : ∀ path ∈ [s.variantOf c, plainOf c], s.directory.SameAt t path) :
    pathsAt { s with directory := t } c = s.pathsAt c :=
  List.filter_congr fun path hpath => (h path hpath).1

theorem found_congr {l : List (String × String)} (h : ∀ c ∈ s.upToPlain l,
      ∀ path ∈ [s.variantOf c, plainOf c], s.directory.SameAt t path) :
    found { s with directory := t } l = s.found l := by
  induction l with
  | nil => rfl
  | cons c rest ih =>
    rw [upToPlain_cons] at h
    have hc := h c List.mem_cons_self
    have hplain : t.has (plainOf c) = s.directory.has (plainOf c) := (hc _ (by simp)).1
    rw [found_cons, found_cons, pathsAt_congr hc, hplain]
    cases hstop : s.directory.has (plainOf c) with
    | true => rfl
    | false =>
      rw [hstop] at h
      rw [ih fun c hc => h c (List.mem_cons_of_mem _ hc)]

/-- The files matter only as far as the candidates count: those behind the first plain one have no
influence. -/
theorem load_congr (hfile : s.file = none) (hplaces : places { s with directory := t } = s.places)
    (h : ∀ c ∈ s.counted, ∀ path ∈ [s.variantOf c, plainOf c], s.directory.SameAt t path) :
    load { s with directory := t } = s.load := by
  have hcandidates : candidates { s with directory := t } = s.candidates := by
    unfold candidates
    rw [hplaces]
  have hpaths : paths { s with directory := t } = s.paths := by
    rw [paths_eq_found (s := { s with directory := t }) hfile, hcandidates, found_congr h,
      paths_eq_found hfile]
  have hdocuments : (s.counted.flatMap s.pathsAt).mapM (document? { s with directory := t }) =
      (s.counted.flatMap s.pathsAt).mapM s.document? := by
    refine mapM_congr_mem fun path hpath => ?_
    obtain ⟨c, hc, hpath⟩ := List.mem_flatMap.1 hpath
    obtain ⟨htried, hhas⟩ := List.mem_filter.1 hpath
    exact document?_congr (h c hc path htried) hhas
  have hlayers : layers { s with directory := t } = s.layers := by
    unfold layers
    rw [hpaths, paths_eq hfile]
    simp only [bind, Except.bind, hdocuments]
  unfold load
  rw [hlayers]

end OtherTree

end Sources
end Startup
end SynonymLookup
