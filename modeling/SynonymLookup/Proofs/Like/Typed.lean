import Mathlib.Data.List.Infix
import SynonymLookup.Proofs.Like.Keyword
import SynonymLookup.Store.Selection

/-! Keywords typed as they stand in a text. A keyword is put in lower case alone and the
text as a whole, so the keyword is found where it stands unless one of its sigmas is
written there in another form. -/

namespace SynonymLookup
namespace Like

/-- A list of the length of a middle part is contained as that part, or from another place on. -/
theorem infix_middle_iff {α : Type} {left middle right part : List α}
    (hlength : part.length = middle.length) :
    part <:+: left ++ middle ++ right ↔ middle = part ∨
      ∃ u v, left ++ middle ++ right = u ++ part ++ v ∧ u.length ≠ left.length := by
  constructor
  · rintro ⟨u, v, h⟩
    by_cases hu : u.length = left.length
    · rw [List.append_assoc, List.append_assoc] at h
      obtain ⟨-, hpart⟩ := List.append_inj h hu
      exact .inl (List.append_inj hpart hlength).1.symm
    · exact .inr ⟨u, v, h.symm, hu⟩
  · rintro (rfl | ⟨u, v, h, -⟩)
    · exact ⟨left, right, rfl⟩
    · exact ⟨u, v, h.symm⟩

theorem prefix_iff_of_length {α : Type} {first rest part : List α}
    (hlength : part.length = first.length) : part <+: first ++ rest ↔ first = part := by
  constructor
  · rintro ⟨v, h⟩
    exact (List.append_inj h hlength).1.symm
  · rintro rfl
    exact List.prefix_append _ _

/-- The lower case of a text, cut where a part of it begins and ends. -/
theorem toList_lowercase_cut (before part after : String) :
    (Text.lowercase (before ++ part ++ after)).toList =
      Text.lowerWithin false (Text.startsCased (part.toList ++ after.toList)) before.toList ++
      Text.lowerWithin (Text.casedAfter false before.toList) (Text.startsCased after.toList)
        part.toList ++
      Text.lowerWithin (Text.casedAfter false (before.toList ++ part.toList)) false
        after.toList := by
  rw [Text.toList_lowercase, String.toList_append, String.toList_append, Text.lowerWithin_append,
    Text.lowerWithin_append, Text.startsCased_eq, Text.startsCased_eq, Text.casedBefore_append]

theorem isMatch_startsWith_append_iff {keyword after : String} :
    isMatch (MatchMode.startsWith.pattern keyword) (keyword ++ after) = true ↔
      ¬Text.TurnsSigma [] keyword.toList after.toList := by
  have hcut := toList_lowercase_cut "" keyword after
  have hlength := Text.length_lowerWithin false false false (Text.startsCased after.toList)
    keyword.toList
  rw [String.empty_append] at hcut
  rw [isMatch_startsWith_iff, hcut, Text.toList_lowercase, ← Text.lowerWithin_eq_alone_iff]
  exact prefix_iff_of_length hlength

theorem isMatch_contains_append_iff {before keyword after : String} :
    isMatch (MatchMode.contains.pattern keyword) (before ++ keyword ++ after) = true ↔
      ¬Text.TurnsSigma before.toList keyword.toList after.toList ∨
      ∃ u v, (Text.lowercase (before ++ keyword ++ after)).toList =
          u ++ (Text.lowercase keyword).toList ++ v ∧
        u.length ≠ (Text.lowercase before).toList.length := by
  have hlength := Text.length_lowerWithin false false (Text.casedAfter false before.toList)
    (Text.startsCased after.toList) keyword.toList
  have hbefore := Text.length_lowerWithin false false false
    (Text.startsCased (keyword.toList ++ after.toList)) before.toList
  rw [isMatch_contains_iff, toList_lowercase_cut, Text.toList_lowercase keyword,
    Text.toList_lowercase before, hbefore, ← Text.lowerWithin_eq_alone_iff]
  exact infix_middle_iff hlength

/-- When a keyword that was taken out of a text, or off its beginning, is found in the text. -/
theorem part_found_iff (before keyword after : String) :
    (isMatch (MatchMode.startsWith.pattern keyword) (keyword ++ after) = true ↔
      ¬Text.TurnsSigma [] keyword.toList after.toList) ∧
    (isMatch (MatchMode.contains.pattern keyword) (before ++ keyword ++ after) = true ↔
      ¬Text.TurnsSigma before.toList keyword.toList after.toList ∨
      ∃ u v, (Text.lowercase (before ++ keyword ++ after)).toList =
          u ++ (Text.lowercase keyword).toList ++ v ∧
        u.length ≠ (Text.lowercase before).toList.length) :=
  ⟨isMatch_startsWith_append_iff, isMatch_contains_append_iff⟩

def labelledStore (label : String) : Store :=
  let node : EntityType :=
    { id := "node", keys := { bundle := some "type", label := some "title" } }
  let named : Entity :=
    { entityType := "node", bundle := "person", id := ⟨"1"⟩, label := some label }
  ((({} : Store).mapSchema (·.insertEntityType node)).mapSchema
    (·.insertBundle "node" ⟨"person", "Person"⟩)).insertEntity named

/-- A name is not found by its first three letters: alone they end in a final sigma. -/
theorem begun_name_not_found :
    "ΚΩΣ" ++ "ΤΑΣ" = "ΚΩΣΤΑΣ" ∧
    isMatch (MatchMode.startsWith.pattern "ΚΩΣ") "ΚΩΣΤΑΣ" = false ∧
    isMatch (MatchMode.contains.pattern "ΚΩΣ") "ΚΩΣΤΑΣ" = false ∧
    (labelledStore "ΚΩΣΤΑΣ").select { targetType := "node", keyword := "ΚΩ", mode := .startsWith } =
      .ok [⟨"person", ⟨"1"⟩, "ΚΩΣΤΑΣ"⟩] ∧
    (labelledStore "ΚΩΣΤΑΣ").select
      { targetType := "node", keyword := "ΚΩΣ", mode := .startsWith } = .ok [] ∧
    (labelledStore "ΚΩΣΤΑΣ").select { targetType := "node", keyword := "ΚΩΣ" } = .ok [] := by
  refine ⟨?_, ?_, ?_, ?_, ?_, ?_⟩ <;> decide +kernel

end Like
end SynonymLookup
