import Mathlib.Data.List.DropRight
import Mathlib.Data.List.Monad
import SynonymLookup.Http.Route
import SynonymLookup.Startup.Options

/-! Serving below a base path. The check of the options asks of a base path only that it starts with
a slash; what is served below the path is exact about the rest: no part of a pattern anywhere, and
no part of the path that starts with a colon. -/

namespace SynonymLookup

namespace Text

theorem splitChars_ne_nil (separator : Char) (cs : List Char) : splitChars separator cs ≠ [] := by
  cases cs with
  | nil => simp [splitChars]
  | cons c rest =>
    rw [splitChars]
    split
    · simp
    · split <;> simp

theorem splitChars_append_replicate (separator : Char) (cs : List Char) (n : Nat) :
    splitChars separator (cs ++ List.replicate n separator) =
      splitChars separator cs ++ List.replicate n [] := by
  induction cs with
  | nil =>
    induction n with
    | zero => rfl
    | succ n ih =>
      rw [List.nil_append] at ih ⊢
      simp [List.replicate_succ, splitChars, ih]
  | cons c rest ih =>
    rw [List.cons_append, splitChars, splitChars, ih]
    split
    · rfl
    · cases h : splitChars separator rest with
      | nil => exact absurd h (splitChars_ne_nil separator rest)
      | cons piece more => rfl

theorem startsWith_iff {s head : String} :
    startsWith s head = true ↔ ∃ rest, s.toList = head.toList ++ rest := by
  rw [startsWith, Option.isSome_iff_exists]
  exact exists_congr fun rest => stripHead?_eq_some

end Text

namespace Http
namespace BasePath

/-- Some part of a path starts with a colon. -/
def IsReserved (s : String) : Prop := ∃ part ∈ Text.split '/' s, Text.startsWith part ":" = true

def IsPattern (s : String) : Prop := ∃ c ∈ s.toList, isPatternChar c = true

instance (s : String) : Decidable (IsReserved s) := inferInstanceAs (Decidable (∃ part ∈ _, _))

instance (s : String) : Decidable (IsPattern s) := inferInstanceAs (Decidable (∃ c ∈ _, _))

theorem exists_dropSlashes (s : String) :
    ∃ n, s.toList = dropSlashes s ++ List.replicate n '/' := by
  have hdrop : dropSlashes s = s.toList.rdropWhile (· = '/') := rfl
  have htail : ∀ c ∈ s.toList.rtakeWhile (· = '/'), c = '/' := fun c hc => by
    simpa using List.mem_rtakeWhile_imp hc
  refine ⟨(s.toList.rtakeWhile (· = '/')).length, ?_⟩
  rw [hdrop, ← List.eq_replicate_of_mem htail, List.rdropWhile_append_rtakeWhile]

theorem isReserved_iff {s : String} {n : Nat} {rest : List Char}
    (h : s.toList = '/' :: rest ++ List.replicate n '/') :
    IsReserved s ↔ ((Text.splitChars '/' rest).any fun part => part.head? == some ':') = true := by
  have hparts : Text.splitChars '/' s.toList =
      [] :: (Text.splitChars '/' rest ++ List.replicate n []) := by
    rw [h, List.cons_append, Text.splitChars, if_pos rfl, Text.splitChars_append_replicate]
  have hcolon (part : List Char) :
      Text.startsWith (String.ofList part) ":" = true ↔ part.head? = some ':' := by
    rw [Text.startsWith_iff]
    cases part <;> simp [eq_comm]
  unfold IsReserved Text.split
  rw [hparts]
  simp only [List.mem_map, List.any_eq_true, exists_exists_and_eq_and, hcolon, beq_iff_eq,
    List.mem_cons, List.mem_append, List.mem_replicate]
  constructor
  · rintro ⟨part, rfl | hpart | ⟨-, rfl⟩, hhead⟩
    · cases hhead
    · exact ⟨part, hpart, hhead⟩
    · cases hhead
  · rintro ⟨part, hpart, hhead⟩
    exact ⟨part, .inr (.inl hpart), hhead⟩

theorem isPattern_iff {s : String} {n : Nat} {rest : List Char}
    (h : s.toList = '/' :: rest ++ List.replicate n '/') :
    IsPattern s ↔ rest.any isPatternChar = true := by
  have hslash : isPatternChar '/' = false := by decide
  unfold IsPattern
  rw [h, List.any_eq_true]
  constructor
  · rintro ⟨c, hc, hpattern⟩
    have hne : c ≠ '/' := fun hc => by simp [hc, hslash] at hpattern
    exact ⟨c, by simpa [hne] using hc, hpattern⟩
  · rintro ⟨c, hc, hpattern⟩
    exact ⟨c, by simp [hc], hpattern⟩

/-- A path that starts with a slash is refused exactly for a pattern's character in it, or else for
a part that starts with a colon. -/
theorem ofText_of_slash {s : String} (h : Text.startsWith s "/" = true) :
    ofText s = if IsPattern s then .error (.invalid s)
      else if IsReserved s then .error (.reserved s) else .ok ⟨String.ofList (dropSlashes s)⟩ := by
  obtain ⟨n, hn⟩ := exists_dropSlashes s
  obtain ⟨tail, htail⟩ := Text.startsWith_iff.1 h
  unfold ofText
  cases hdrop : dropSlashes s with
  | nil =>
    -- nothing but slashes: the root
    rw [hdrop, List.nil_append] at hn
    have hpattern : ¬ IsPattern s := by
      rintro ⟨c, hc, hpattern⟩
      rw [hn] at hc
      rw [List.eq_of_mem_replicate hc] at hpattern
      revert hpattern
      decide
    have hreserved : ¬ IsReserved s := by
      cases n with
      | zero =>
        rw [htail] at hn
        cases hn
      | succ n =>
        have hsplit : s.toList = '/' :: [] ++ List.replicate n '/' := hn
        rw [isReserved_iff hsplit]
        decide
    rw [if_neg hpattern, if_neg hreserved]
    rfl
  | cons c rest =>
    rw [hdrop] at hn
    have hc : c = '/' := by
      rw [htail] at hn
      exact (List.cons.inj hn).1.symm
    subst hc
    have hpattern := isPattern_iff hn
    have hreserved := isReserved_iff hn
    simp only [ne_eq, not_true_eq_false, decide_false, Bool.false_or, ← hpattern, ← hreserved]
    rfl

end BasePath

/-- The routes below a base path are those of the root. -/
theorem Route.ofPath?_append (base : BasePath) (path : String) :
    Route.ofPath? base (base.text ++ path) = Route.ofPath? ⟨""⟩ path := by
  have hstrip : Text.stripHead? base.text.toList (base.text ++ path).toList = some path.toList :=
    Text.stripHead?_eq_some.2 String.toList_append
  have hroot : Text.stripHead? "".toList path.toList = some path.toList :=
    Text.stripHead?_eq_some.2 rfl
  rw [Route.ofPath?, Route.ofPath?, hstrip, hroot]

end Http

namespace Startup
namespace Options

theorem refuseIf_eq_ok_iff {condition : Bool} {e : OptionsError} :
    refuseIf condition e = .ok () ↔ condition = false := by
  cases condition <;> simp [refuseIf, pure, Except.pure, throw, throwThe, MonadExceptOf.throw]

theorem both_eq_ok_iff {x y : Except OptionsError Unit} :
    (do x; y) = .ok () ↔ x = .ok () ∧ y = .ok () := by
  cases x <;> simp [bind, Except.bind]

theorem check_eq_ok_iff {o : Options} : o.check = .ok () ↔
    (((o.logging.output == .file && o.logging.filePath.isNone) = false ∧
      o.logging.filters.keys.any Text.allBlank = false) ∧
    (Text.allBlank o.server.host = false ∧
      (o.server.host.toList.any fun c => Text.isBlank c || c == '/') = false ∧
      (o.server.port == 0) = false ∧ Text.startsWith o.server.basePath "/" = true) ∧
    o.defaultWordings.keys.any Text.allBlank = false) := by
  unfold check checkLogging checkServer
  simp only [both_eq_ok_iff, refuseIf_eq_ok_iff, Bool.not_eq_false']

end Options

open Http

/-- Checked options can be served exactly where no character of a pattern stands in their base path
and no part of it starts with a colon; otherwise it is told which of these it is. What is served are
the routes of the root, below the path without the slashes at its end. -/
theorem checked_options_served_iff {o : Options} (valid : o.check = .ok ()) :
    ((∃ base, BasePath.ofText o.server.basePath = .ok base) ↔
      ¬ BasePath.IsPattern o.server.basePath ∧ ¬ BasePath.IsReserved o.server.basePath) ∧
    (BasePath.ofText o.server.basePath = .error (.invalid o.server.basePath) ↔
      BasePath.IsPattern o.server.basePath) ∧
    (BasePath.ofText o.server.basePath = .error (.reserved o.server.basePath) ↔
      ¬ BasePath.IsPattern o.server.basePath ∧ BasePath.IsReserved o.server.basePath) ∧
    ∀ base, BasePath.ofText o.server.basePath = .ok base →
      base.text.toList = BasePath.dropSlashes o.server.basePath ∧
      ∀ path, Route.ofPath? base (base.text ++ path) = Route.ofPath? ⟨""⟩ path := by
  obtain ⟨-, ⟨-, -, -, hslash⟩, -⟩ := Options.check_eq_ok_iff.1 valid
  rw [BasePath.ofText_of_slash hslash]
  by_cases hpattern : BasePath.IsPattern o.server.basePath
  · simp [hpattern]
  · by_cases hreserved : BasePath.IsReserved o.server.basePath
    · simp [hpattern, hreserved]
    · simp [hpattern, hreserved, Route.ofPath?_append]

theorem checked_options_served_iff_default : Options.check {} = .ok () ∧
    ∃ base, BasePath.ofText (Options.server {}).basePath = .ok base := by
  have valid : Options.check {} = .ok () := by decide +kernel
  have hpath : "/synonyms".toList = '/' :: "synonyms".toList ++ List.replicate 0 '/' := rfl
  have hpattern : ¬ BasePath.IsPattern "/synonyms" := by
    rw [BasePath.isPattern_iff hpath]
    decide
  have hreserved : ¬ BasePath.IsReserved "/synonyms" := by
    rw [BasePath.isReserved_iff hpath]
    decide
  exact ⟨valid, (checked_options_served_iff valid).1.2 ⟨hpattern, hreserved⟩⟩

def below (basePath : String) : Options := { server := { basePath } }

/-- Options pass the check with a pattern in their base path, and with a reserved part
of it; neither can be served. -/
theorem checked_options_not_served :
    ((below "/api/\x7bversion\x7d").check = .ok () ∧
      ¬ ∃ base, BasePath.ofText (below "/api/\x7bversion\x7d").server.basePath = .ok base) ∧
    (below "/api/:version").check = .ok () ∧
      ¬ ∃ base, BasePath.ofText (below "/api/:version").server.basePath = .ok base := by
  have hpattern : BasePath.ofText "/api/\x7bversion\x7d" =
      .error (.invalid "/api/\x7bversion\x7d") := by decide +kernel
  have hreserved : BasePath.ofText "/api/:version" = .error (.reserved "/api/:version") := by
    decide +kernel
  refine ⟨⟨by decide +kernel, ?_⟩, by decide +kernel, ?_⟩
  · rintro ⟨base, hbase⟩
    cases hpattern.symm.trans hbase
  · rintro ⟨base, hbase⟩
    cases hreserved.symm.trans hbase

end Startup
end SynonymLookup
