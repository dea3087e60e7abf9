import SynonymLookup.Proofs.Provider.PluginId
import SynonymLookup.Select

/-! Option values as they are written and read. The first colon is taken for the end of the id, so
a value is read as it was written where its id has no colon. Reading loses nothing: every text is
what its reading is written as. -/

namespace SynonymLookup

/-- An id that an option value can hold beside a synonym. -/
def EntityId.IsPlain (id : EntityId) : Prop := ':' ∉ id.text.toList

instance (id : EntityId) : Decidable id.IsPlain := inferInstanceAs (Decidable (¬_))

namespace OptionValue

theorem toList_encode_some (id : EntityId) (synonym : String) :
    (encode ⟨id, some synonym⟩).toList = id.text.toList ++ ':' :: synonym.toList := by
  simp [encode]

/-- A value with a synonym is longer than the id alone. -/
theorem encode_some_ne_text (id : EntityId) (synonym : String) :
    encode ⟨id, some synonym⟩ ≠ id.text := by
  intro h
  have hlength := congrArg (fun s : String => s.toList.length) h
  simp only [toList_encode_some, List.length_append, List.length_cons] at hlength
  omega

theorem encode_some_inj (id : EntityId) {synonym synonym' : String} :
    encode ⟨id, some synonym⟩ = encode ⟨id, some synonym'⟩ ↔ synonym = synonym' := by
  rw [← String.toList_inj, toList_encode_some, toList_encode_some, List.append_cancel_left_eq,
    List.cons.injEq, String.toList_inj]
  exact and_iff_right rfl

theorem decode_eq (s : String) : decode s = match Text.cutChars ':' s.toList with
    | some (id, synonym) => ⟨⟨String.ofList id⟩, some (String.ofList synonym)⟩
    | none => ⟨⟨s⟩, none⟩ := by
  rw [decode, Text.cut]
  cases Text.cutChars ':' s.toList <;> rfl

theorem decode_encode {v : OptionValue} (h : v.entityId.IsPlain) : decode (encode v) = v := by
  obtain ⟨id, synonym⟩ := v
  rw [decode_eq]
  cases synonym with
  | none =>
    have huncut : Text.cutChars ':' (encode ⟨id, none⟩).toList = none := Text.cutChars_eq_none.2 h
    rw [huncut]
    rfl
  | some synonym =>
    rw [toList_encode_some, Text.cutChars_append h]
    simp

theorem encode_decode (s : String) : encode (decode s) = s := by
  rw [decode_eq]
  cases hcut : Text.cutChars ':' s.toList with
  | none => rfl
  | some p =>
    obtain ⟨id, synonym⟩ := p
    rw [← String.toList_inj, toList_encode_some, (Text.cutChars_eq_some hcut).1]
    simp

end OptionValue
end SynonymLookup
