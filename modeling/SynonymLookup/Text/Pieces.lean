/-! Cutting text at separators, on lists of characters. -/

namespace SynonymLookup
namespace Text

/-- What stands before and after the first separator. -/
def cutChars (separator : Char) : List Char → Option (List Char × List Char)
  | [] => none
  | c :: rest =>
    if c = separator then some ([], rest)
    else (cutChars separator rest).map fun p => (c :: p.1, p.2)

theorem cutChars_eq_some {separator : Char} {cs a b : List Char}
    (h : cutChars separator cs = some (a, b)) :
    cs = a ++ separator :: b ∧ separator ∉ a := by
  induction cs generalizing a with
  | nil => simp [cutChars] at h
  | cons c rest ih =>
    simp only [cutChars] at h
    split at h
    · simp_all
    · obtain ⟨⟨a', b'⟩, hr, he⟩ := Option.map_eq_some_iff.1 h
      simp only [Prod.mk.injEq] at he
      obtain ⟨rfl, rfl⟩ := he
      have := ih hr
      simp_all [eq_comm]

theorem cutChars_eq_none {separator : Char} {cs : List Char} :
    cutChars separator cs = none ↔ separator ∉ cs := by
  induction cs with
  | nil => simp [cutChars]
  | cons c rest ih =>
    by_cases h : c = separator
    · simp [cutChars, h]
    · simp [cutChars, h, ih, Ne.symm h]

def cut (separator : Char) (s : String) : Option (String × String) :=
  (cutChars separator s.toList).map fun p => (String.ofList p.1, String.ofList p.2)

/-- All pieces between separators; a text without one is its only piece. -/
def splitChars (separator : Char) : List Char → List (List Char)
  | [] => [[]]
  | c :: rest =>
    if c = separator then [] :: splitChars separator rest
    else match splitChars separator rest with
      | [] => [[c]]
      | piece :: more => (c :: piece) :: more

def split (separator : Char) (s : String) : List String :=
  (splitChars separator s.toList).map String.ofList

def replaceChar (old new : Char) (s : String) : String :=
  String.ofList (s.toList.map fun c => if c = old then new else c)

/-- Drops `head` from the front, if the text starts with it. -/
def stripHead? : (head cs : List Char) → Option (List Char)
  | [], cs => some cs
  | _ :: _, [] => none
  | h :: head, c :: cs => if h = c then stripHead? head cs else none

theorem stripHead?_eq_some {head cs rest : List Char} :
    stripHead? head cs = some rest ↔ cs = head ++ rest := by
  induction head generalizing cs with
  | nil => simp [stripHead?, eq_comm]
  | cons h head ih =>
    cases cs with
    | nil => simp [stripHead?]
    | cons c cs => by_cases hc : h = c <;> simp [stripHead?, hc, ih, eq_comm]

def startsWith (s head : String) : Bool := (stripHead? head.toList s.toList).isSome

end Text
end SynonymLookup
