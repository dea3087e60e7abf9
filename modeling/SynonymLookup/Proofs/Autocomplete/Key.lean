import SynonymLookup.Autocomplete
import SynonymLookup.Proofs.Configuration.Reading
import SynonymLookup.Proofs.Digest
import SynonymLookup.Proofs.Json.Printer

/-! Settings of autocomplete as they are stored, and the keys they are stored under. What is written
of settings tells them, so two of them share a key only if their digests collide. -/

namespace SynonymLookup

theorem MatchMode.ofJson?_toJson (m : MatchMode) : ofJson? m.toJson = some m := by cases m <;> rfl

theorem Json.strings?_ofStrings (l : List String) : strings? (ofStrings l) = some l := by
  have hitems : (l.map string).mapM string? = some l := by
    induction l with
    | nil => rfl
    | cons s l ih => simp [ih, string?]
  exact hitems

namespace AutocompleteSettings

theorem ofJson?_toJson (x : AutocompleteSettings) : ofJson? x.toJson = some x := by
  unfold ofJson? toJson
  rw [Json.record?_ofFields]
  generalize hr : Record.mk (KeyMap.ofList x.toFields).entries = r
  have hget (name : String) : r.get? name = KeyMap.findEntry name x.toFields.reverse := by
    rw [← hr, Record.get?_ofList]
  have htype : r.required "target_type" Json.string? = some x.targetType := by
    simp [Record.required, hget, toFields, KeyMap.findEntry, Json.string?]
  have hbundles : r.withDefault "target_bundles" Json.strings? [] = some x.targetBundles := by
    simp [Record.withDefault, hget, toFields, KeyMap.findEntry, Json.strings?_ofStrings]
  have hmode : r.withDefault "match" MatchMode.ofJson? .contains = some x.mode := by
    simp [Record.withDefault, hget, toFields, KeyMap.findEntry, MatchMode.ofJson?_toJson]
  have hsize : r.withDefault "suggestion_size" Json.natural? 10 = some x.size := by
    simp [Record.withDefault, hget, toFields, KeyMap.findEntry, Json.natural?, Json.ofNat,
      Number.natural?]
  have hunique : r.withDefault "suggest_only_unique" Json.bool? false = some x.onlyUnique := by
    simp [Record.withDefault, hget, toFields, KeyMap.findEntry, Json.bool?]
  simp [htype, hbundles, hmode, hsize, hunique]

def bytes (x : AutocompleteSettings) : List UInt8 :=
  (Json.object x.toFields).compact.toUTF8.toList

/-- No two of these settings are written differently and have the same digest. -/
def CollisionFree (l : List AutocompleteSettings) : Prop :=
  ∀ x ∈ l, ∀ y ∈ l, Sha256.digest x.bytes = Sha256.digest y.bytes → x.bytes = y.bytes

theorem toList_written (x : AutocompleteSettings) : (Json.object x.toFields).compact.toList =
    '\x7b' :: ((Json.quoted "target_type").toList ++ ':' :: ((Json.quoted x.targetType).toList ++
      ',' :: ((Json.quoted "target_bundles").toList ++ ':' ::
        ((Json.ofStrings x.targetBundles).compact.toList ++
      ',' :: ((Json.quoted "match").toList ++ ':' :: ((Json.quoted x.mode.text).toList ++
      ',' :: ((Json.quoted "suggestion_size").toList ++
        ':' :: ((Json.ofNat x.size).compact.toList ++
      ',' :: ((Json.quoted "suggest_only_unique").toList ++ ':' ::
        ((Json.bool x.onlyUnique).compact.toList ++ ['\x7d'])))))))))) := by
  have hstring (s : String) : (Json.string s).compact = Json.quoted s := by rw [Json.compact]
  rw [Json.compact_object]
  simp [toFields, MatchMode.toJson, hstring, String.intercalate_cons_cons]

theorem bytes_inj {x y : AutocompleteSettings} (h : x.bytes = y.bytes) : x = y := by
  have hwritten := congrArg String.toList (Sha256.toUTF8_toList_inj h)
  rw [toList_written, toList_written] at hwritten
  simp only [List.cons.injEq, true_and, List.append_cancel_left_eq] at hwritten
  obtain ⟨htype, hrest⟩ := Json.quoted_append_inj hwritten
  simp only [List.cons.injEq, true_and, List.append_cancel_left_eq] at hrest
  obtain ⟨hbundles, hrest⟩ := Json.ofStrings_append_inj hrest
  simp only [List.cons.injEq, true_and, List.append_cancel_left_eq] at hrest
  obtain ⟨hmode, hrest⟩ := Json.quoted_append_inj hrest
  simp only [List.cons.injEq, true_and, List.append_cancel_left_eq] at hrest
  obtain ⟨hsize, hrest⟩ := Json.ofNat_append_inj hrest
  simp only [List.cons.injEq, true_and, List.append_cancel_left_eq] at hrest
  have hsame : x.mode = y.mode := by
    cases hx : x.mode <;> cases hy : y.mode <;> simp_all [MatchMode.text]
  have hunique : x.onlyUnique = y.onlyUnique := by
    cases hx : x.onlyUnique <;> cases hy : y.onlyUnique <;> simp_all [Json.compact]
  cases x
  cases y
  simp_all

/-- Among settings whose digests do not collide, a key stands for its settings. -/
theorem CollisionFree.key_inj {l : List AutocompleteSettings} (h : CollisionFree l)
    {x y : AutocompleteSettings} (hx : x ∈ l) (hy : y ∈ l) : x.key = y.key ↔ x = y := by
  refine ⟨fun hkey => ?_, fun hxy => hxy ▸ rfl⟩
  rw [key, key, String.append_right_inj] at hkey
  exact bytes_inj (h x hx y hy (Sha256.hex_inj hkey))

theorem toList_key (x : AutocompleteSettings) :
    ∃ digits : List Char, x.key.toList = keyHead.toList ++ digits ∧
      ∀ c ∈ digits, Sha256.isHex c = true := by
  refine ⟨(Sha256.ofText (Json.object x.toFields).compact).toList, ?_, fun c hc =>
    Sha256.isHex_of_mem_ofText hc⟩
  rw [key, String.toList_append]

end AutocompleteSettings
end SynonymLookup
