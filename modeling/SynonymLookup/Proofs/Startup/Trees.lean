import SynonymLookup.Proofs.Json.Overlay
import SynonymLookup.Startup.Sources

/-! What sources of options give: trees of objects in which no name repeats. Files and variables
never give null; options that are written down do, where there is no file. -/

namespace SynonymLookup

open Json (Tree)

theorem bind_eq_ok_iff {ε α β : Type} {x : Except ε α} {f : α → Except ε β} {b : β} :
    (x >>= f) = .ok b ↔ ∃ a, x = .ok a ∧ f a = .ok b := by
  cases x <;> simp [bind, Except.bind]

section Collected

variable {α β : Type}

/-- Whatever is collected was answered for some item, where a computation answers as
its parts do. -/
theorem exists_of_mem_mapM {m : Type → Type} [Monad m] [LawfulMonad m]
    (Answers : {γ : Type} → m γ → γ → Prop)
    (of_pure : ∀ {γ : Type} {c d : γ}, Answers (pure c) d → c = d)
    (of_bind : ∀ {γ δ : Type} {x : m γ} {g : γ → m δ} {d : δ}, Answers (x >>= g) d →
      ∃ c, Answers x c ∧ Answers (g c) d)
    {f : α → m β} {l : List α} {r : List β} (h : Answers (l.mapM f) r) {b : β} (hb : b ∈ r) :
    ∃ a ∈ l, Answers (f a) b := by
  induction l generalizing r with
  | nil =>
    rw [List.mapM_nil] at h
    rw [← of_pure h] at hb
    cases hb
  | cons a rest ih =>
    rw [List.mapM_cons] at h
    obtain ⟨first, hfirst, h⟩ := of_bind h
    obtain ⟨more, hmore, h⟩ := of_bind h
    rw [← of_pure h] at hb
    rcases List.mem_cons.1 hb with rfl | hb
    · exact ⟨a, List.mem_cons_self, hfirst⟩
    · obtain ⟨x, hx, hread⟩ := ih hmore hb
      exact ⟨x, List.mem_cons_of_mem _ hx, hread⟩

theorem exists_of_mem_mapM_ok {ε : Type} {f : α → Except ε β} {l : List α} {r : List β}
    (h : l.mapM f = .ok r) {b : β} (hb : b ∈ r) : ∃ a ∈ l, f a = .ok b :=
  exists_of_mem_mapM (fun x c => x = Except.ok c) Except.ok.inj bind_eq_ok_iff.1 h hb

theorem exists_of_mem_mapM_some {f : α → Option β} {l : List α} {r : List β}
    (h : l.mapM f = some r) {b : β} (hb : b ∈ r) : ∃ a ∈ l, f a = some b :=
  exists_of_mem_mapM (fun x c => x = some c) Option.some.inj Option.bind_eq_some_iff.1 h hb

end Collected

def Json.NotNull (j : Json) : Prop := j.isNull = false

namespace Toml

theorem notNull_of_value {cs rest : List Char} {j : Json} (h : value cs = some (j, rest)) :
    j.NotNull ∧ j.isTable = false := by
  have hplain {cs : List Char} {j : Json} (h : plain? cs = some j) :
      j.NotNull ∧ j.isTable = false := by
    unfold plain? at h
    split at h
    · cases h
      exact ⟨rfl, rfl⟩
    · split at h
      · cases h
        exact ⟨rfl, rfl⟩
      · split at h
        · cases h
          exact ⟨rfl, rfl⟩
        · obtain ⟨x, -, rfl⟩ := Option.map_eq_some_iff.1 h
          exact ⟨rfl, rfl⟩
  unfold value at h
  split at h
  · obtain ⟨p, -, hp⟩ := Option.map_eq_some_iff.1 h
    cases hp
    exact ⟨rfl, rfl⟩
  · obtain ⟨p, -, hp⟩ := Option.map_eq_some_iff.1 h
    cases hp
    exact ⟨rfl, rfl⟩
  · obtain ⟨v, hv, hp⟩ := Option.map_eq_some_iff.1 h
    cases hp
    exact hplain hv

theorem notNull_of_statement {cs rest : List Char} {path : List String} {j : Json}
    (h : statement cs = some (some (.pair path j), rest)) : j.NotNull ∧ j.isTable = false := by
  unfold statement at h
  split at h
  · cases h
  · split at h
    · simp only [Option.bind_eq_bind, Option.bind_eq_some_iff] at h
      obtain ⟨p, -, h⟩ := h
      split at h
      · obtain ⟨last, -, h⟩ := Option.bind_eq_some_iff.1 h
        cases h
      · cases h
    · simp only [Option.bind_eq_bind, Option.bind_eq_some_iff] at h
      obtain ⟨p, -, h⟩ := h
      split at h
      · simp only [Option.bind_eq_some_iff] at h
        obtain ⟨v, hv, last, -, h⟩ := h
        cases h
        exact notNull_of_value hv
      · cases h

namespace Document

theorem content_of_enter {through : Origin → Bool} {new : Origin} {d d' : Document}
    {paths : List (List String)} (h : d.enter through new paths = some d') :
    d'.content = d.content := by
  induction paths generalizing d with
  | nil =>
    cases h
    rfl
  | cons path rest ih =>
    rw [enter] at h
    split at h
    · exact (ih h).trans rfl
    · split at h
      · exact ih h
      · cases h

/-- What is placed after the tables on the way are entered is laid over what was there. -/
theorem tree_place {through : Origin → Bool} {new : Origin} {d e : Document}
    {paths : List (List String)} (he : d.enter through new paths = some e)
    (hd : Tree Json.NotNull d.content) (origin : Origin) (path : List String) {v : Json}
    (hv : Tree Json.NotNull v) : Tree Json.NotNull ((e.mark path origin).place path v).content := by
  rw [← content_of_enter he] at hd
  exact hd.overlay (.nested path hv)

theorem tree_add {d d' : Document} {st : Statement} (hd : Tree Json.NotNull d.content)
    (hst : ∀ path j, st = .pair path j → j.NotNull ∧ j.isTable = false) (h : d.add st = some d') :
    Tree Json.NotNull d'.content := by
  cases st with
  | table path =>
    simp only [add, Option.bind_eq_bind, Option.bind_eq_some_iff] at h
    obtain ⟨e, he, h⟩ := h
    have hobject : Tree Json.NotNull (.object []) := .node KeyMap.empty fun f hf => nomatch hf
    split at h
    · cases h
      exact tree_place he hd .header path hobject
    · cases h
      exact tree_place he hd .header path hobject
    · cases h
  | pair path v =>
    obtain ⟨hnull, htable⟩ := hst path v rfl
    simp only [add, Option.bind_eq_bind, Option.bind_eq_some_iff] at h
    obtain ⟨e, he, h⟩ := h
    split at h
    · cases h
    · split at h
      · cases h
        exact tree_place he hd .value _ (.leaf hnull htable)
      · cases h

theorem tree_ofStatements? {fuel : Nat} {d d' : Document} {cs : List Char}
    (hd : Tree Json.NotNull d.content) (h : d.ofStatements? fuel cs = some d') :
    Tree Json.NotNull d'.content := by
  induction fuel generalizing d cs with
  | zero =>
    cases cs with
    | nil =>
      cases h
      exact hd
    | cons c rest => cases h
  | succ fuel ih =>
    cases cs with
    | nil =>
      cases h
      exact hd
    | cons c rest =>
      simp only [ofStatements?, Option.bind_eq_bind, Option.bind_eq_some_iff] at h
      obtain ⟨⟨st, more⟩, hst, h⟩ := h
      cases st with
      | none => exact ih hd h
      | some st =>
        obtain ⟨e, he, h⟩ := Option.bind_eq_some_iff.1 h
        refine ih (tree_add hd ?_ he) h
        rintro path j rfl
        exact notNull_of_statement hst

end Document

theorem tree_ofText? {text : String} {j : Json} (h : ofText? text = some j) :
    Tree Json.NotNull j := by
  obtain ⟨d, hd, rfl⟩ := Option.map_eq_some_iff.1 h
  exact Document.tree_ofStatements? (.node KeyMap.empty fun f hf => nomatch hf) hd

end Toml

namespace Startup
namespace Variable

theorem tree_bare (cs : List Char) : Tree Json.NotNull (bare cs) := by
  unfold bare
  dsimp only
  split
  · exact .leaf rfl rfl
  · split
    · exact .leaf rfl rfl
    · exact .leaf rfl rfl

theorem throw_ne_ok {α : Type} (e : Refusal) (a : α) : (throw e : Read α) ≠ .ok a := nofun

theorem tree_value_entries (fuel : Nat) :
    (∀ cs j rest, value fuel cs = .ok (j, rest) → Tree Json.NotNull j) ∧
    ∀ cs l rest, entries fuel cs = .ok (l, rest) → ∀ f ∈ l, Tree Json.NotNull f.2 := by
  induction fuel with
  | zero => exact ⟨fun _ _ _ h => absurd h (throw_ne_ok _ _), fun _ _ _ h =>
    absurd h (throw_ne_ok _ _)⟩
  | succ fuel ih =>
    obtain ⟨ihvalue, ihentries⟩ := ih
    constructor
    · intro cs j rest h
      rw [value] at h
      split at h
      · cases h
        exact .leaf rfl rfl
      · cases h
        exact .leaf rfl rfl
      · obtain ⟨⟨l, more⟩, -, h⟩ := bind_eq_ok_iff.1 h
        cases h
        exact .leaf rfl rfl
      · obtain ⟨⟨l, more⟩, hl, h⟩ := bind_eq_ok_iff.1 h
        cases h
        exact .ofFields (ihentries _ _ _ hl)
      · obtain ⟨⟨text, more⟩, -, h⟩ := bind_eq_ok_iff.1 h
        cases h
        exact .leaf rfl rfl
      · cases h
        exact .leaf rfl rfl
      · exact absurd h (throw_ne_ok _ _)
      · cases h
        exact tree_bare _
    · intro cs l rest h
      unfold entries at h
      split at h
      · exact absurd h (throw_ne_ok _ _)
      · cases h
        exact fun f hf => nomatch hf
      · rename_i hfuel _
        cases hfuel
        obtain ⟨⟨name, afterName⟩, -, h⟩ := bind_eq_ok_iff.1 h
        dsimp only at h
        split at h
        · obtain ⟨⟨v, afterValue⟩, hv, h⟩ := bind_eq_ok_iff.1 h
          have hvalue := ihvalue _ _ _ hv
          dsimp only at h
          split at h
          · obtain ⟨⟨more, last⟩, hmore, h⟩ := bind_eq_ok_iff.1 h
            cases h
            intro f hf
            rcases List.mem_cons.1 hf with rfl | hf
            · exact hvalue
            · exact ihentries _ _ _ hmore f hf
          · cases h
            intro f hf
            rw [List.mem_singleton] at hf
            rwa [hf]
          · exact absurd h (throw_ne_ok _ _)
        · exact absurd h (throw_ne_ok _ _)

theorem tree_ofText? {s : String} {j : Json} (h : ofText? s = some j) : Tree Json.NotNull j := by
  unfold ofText? at h
  split at h
  · rename_i v hv
    cases h
    exact (tree_value_entries _).1 _ _ _ hv
  · cases h
    exact .leaf rfl rfl
  · cases h
    exact .leaf rfl rfl
  · cases h

end Variable

/-- What every reader of files and of variables does: it gives trees without null. -/
structure Readers.Lawful (r : Readers) : Prop where
  tree_ofFile : ∀ {text j}, r.ofFile? text = some j → Tree Json.NotNull j
  tree_ofVariable : ∀ {text j}, r.ofVariable? text = some j → Tree Json.NotNull j

theorem Readers.lawful : ({} : Readers).Lawful where
  tree_ofFile := Toml.tree_ofText?
  tree_ofVariable := Variable.tree_ofText?

theorem Sources.tree_document? {s : Sources} (readers : s.readers.Lawful) {path : String} {j : Json}
    (h : s.document? path = some j) : Tree Json.NotNull j := by
  unfold document? at h
  split at h
  · cases h
    exact .node KeyMap.empty fun f hf => nomatch hf
  · exact readers.tree_ofFile h

theorem Environment.tree_layer {read : String → Option Json}
    (hread : ∀ {text j}, read text = some j → Tree Json.NotNull j) {e : Environment} {j : Json}
    (h : e.layer read = .ok j) : Tree Json.NotNull j := by
  unfold layer at h
  obtain ⟨layers, hlayers, h⟩ := bind_eq_ok_iff.1 h
  cases h
  refine Tree.overlayAll (.node KeyMap.empty fun f hf => nomatch hf) fun l hl => ?_
  obtain ⟨⟨path, text⟩, -, hvalue⟩ := exists_of_mem_mapM_ok hlayers hl
  dsimp only at hvalue
  split at hvalue
  · rename_i v hv
    cases hvalue
    exact .nested path (hread hv)
  · cases hvalue

theorem tree_ofOption (o : Option String) : Tree (fun _ => True) (Json.ofOption .string o) := by
  cases o <;> exact .leaf trivial rfl

theorem Logging.tree_toJson (l : Logging) : Tree (fun _ => True) l.toJson := by
  refine .ofFields fun f hf => ?_
  simp only [List.mem_cons, List.not_mem_nil, or_false] at hf
  rcases hf with rfl | rfl | rfl | rfl | rfl | rfl | rfl | rfl
  · exact .leaf trivial rfl
  · exact .leaf trivial rfl
  · exact .leaf trivial rfl
  · exact tree_ofOption l.filePath
  · refine .ofFields fun f hf => ?_
    simp only [List.mem_cons, List.not_mem_nil, or_false] at hf
    rcases hf with rfl | rfl | rfl | rfl
    all_goals exact .leaf trivial rfl
  · exact .leaf trivial rfl
  · exact .leaf trivial rfl
  · refine .node _ fun f hf => ?_
    obtain ⟨e, -, rfl⟩ := List.mem_map.1 hf
    exact .leaf trivial rfl

theorem Server.tree_toJson (s : Server) : Tree (fun _ => True) s.toJson := by
  refine .ofFields fun f hf => ?_
  simp only [List.mem_cons, List.not_mem_nil, or_false] at hf
  rcases hf with rfl | rfl | rfl
  all_goals exact .leaf trivial rfl

theorem Options.tree_toJson (o : Options) : Tree (fun _ => True) o.toJson := by
  have hone {name : String} {j : Json} (h : Tree (fun _ => True) j) :
      Tree (fun _ => True) (Json.ofFields [(name, j)]) :=
    .ofFields fun f hf => by rw [List.mem_singleton.1 hf]; exact h
  refine .ofFields fun f hf => ?_
  simp only [List.mem_cons, List.not_mem_nil, or_false] at hf
  rcases hf with rfl | rfl | rfl | rfl | rfl
  · exact o.logging.tree_toJson
  · exact o.server.tree_toJson
  · exact hone (tree_ofOption o.fixture)
  · exact hone (.leaf trivial rfl)
  · refine .node _ fun f hf => ?_
    obtain ⟨e, -, rfl⟩ := List.mem_map.1 hf
    exact hone (.leaf trivial rfl)

end Startup
end SynonymLookup
