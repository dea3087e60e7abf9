import Mathlib.Data.List.Nodup
import SynonymLookup.Schema

/-! The last entry of each key in a list, in order, and lists into which several entries are put one
after the other. What was there stays in place unless its name is put in, and behind it stand the
last entries put in. So putting the same entries in again changes nothing. -/

namespace SynonymLookup

section Key

variable {α κ : Type} [BEq κ]

def hasKey (key : α → κ) (l : List α) (k : κ) : Bool := l.any fun a => key a == k

@[simp] theorem hasKey_nil (key : α → κ) (k : κ) : hasKey key [] k = false := rfl

@[simp] theorem hasKey_cons (key : α → κ) (a : α) (rest : List α) (k : κ) :
    hasKey key (a :: rest) k = (key a == k || hasKey key rest k) := rfl

/-- The entries that no later one of the same key follows. -/
def lastsBy (key : α → κ) : List α → List α
  | [] => []
  | a :: rest => if hasKey key rest (key a) then lastsBy key rest else a :: lastsBy key rest

theorem lastsBy_sublist (key : α → κ) (l : List α) : (lastsBy key l).Sublist l := by
  induction l with
  | nil => exact .slnil
  | cons a rest ih =>
    rw [lastsBy]
    split
    · exact ih.cons a
    · exact ih.cons_cons a

variable [LawfulBEq κ]

theorem hasKey_iff {key : α → κ} {l : List α} {k : κ} :
    hasKey key l k = true ↔ ∃ a ∈ l, key a = k := by
  simp [hasKey]

theorem filter_eq_nil_of_hasKey {key : α → κ} {l : List α} {k : κ} (h : hasKey key l k = false) :
    (l.filter fun a => key a == k) = [] := by
  simpa [hasKey] using h

theorem nodup_lastsBy (key : α → κ) (l : List α) : ((lastsBy key l).map key).Nodup := by
  induction l with
  | nil => exact List.nodup_nil
  | cons a rest ih =>
    rw [lastsBy]
    split
    · exact ih
    · rename_i hlast
      refine List.nodup_cons.2 ⟨fun hmem => hlast ?_, ih⟩
      obtain ⟨b, hb, hkey⟩ := List.mem_map.1 hmem
      exact hasKey_iff.2 ⟨b, (lastsBy_sublist key rest).mem hb, hkey⟩

end Key

section Name

variable {α : Type}

/-- Several entries put into a list one after the other, each in place of those with its name. -/
def replaceAllAtEnd (name : α → String) (l entries : List α) : List α :=
  entries.foldl (fun l entry => replaceAtEnd name entry l) l

variable (name : α → String)

theorem replaceAllAtEnd_cons (l : List α) (entry : α) (rest : List α) :
    replaceAllAtEnd name l (entry :: rest) =
      replaceAllAtEnd name (replaceAtEnd name entry l) rest := rfl

theorem replaceAllAtEnd_eq (l entries : List α) : replaceAllAtEnd name l entries =
    (l.filter fun a => !hasKey name entries (name a)) ++ lastsBy name entries := by
  induction entries generalizing l with
  | nil => simp [replaceAllAtEnd, lastsBy]
  | cons entry rest ih =>
    have hkept : ((l.filter fun a => name a != name entry).filter fun a =>
        !hasKey name rest (name a)) =
        l.filter fun a => !hasKey name (entry :: rest) (name a) := by
      rw [List.filter_filter]
      refine List.filter_congr fun a _ => ?_
      simp [Bool.and_comm, bne, Bool.beq_comm]
    -- the entry itself stays only if no later one has its name
    have hentry : ([entry].filter fun a => !hasKey name rest (name a)) ++ lastsBy name rest =
        lastsBy name (entry :: rest) := by
      rw [lastsBy]
      cases hlater : hasKey name rest (name entry) <;> simp [hlater]
    rw [replaceAllAtEnd_cons, ih, replaceAtEnd, List.filter_append, hkept,
      List.append_assoc, hentry]

theorem replaceAllAtEnd_again (l entries : List α) :
    replaceAllAtEnd name (replaceAllAtEnd name l entries) entries =
      replaceAllAtEnd name l entries := by
  have hnamed : ((lastsBy name entries).filter fun a => !hasKey name entries (name a)) = [] := by
    refine List.filter_eq_nil_iff.2 fun a ha => ?_
    simpa using hasKey_iff.2 ⟨a, (lastsBy_sublist name entries).mem ha, rfl⟩
  rw [replaceAllAtEnd_eq, replaceAllAtEnd_eq, List.filter_append, List.filter_filter, hnamed,
    List.append_nil]
  simp

end Name

end SynonymLookup
