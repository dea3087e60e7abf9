import SynonymLookup.Configuration.Basic
import SynonymLookup.Proofs.Json.Normal

/-! What is read back of a written configuration: the same but for its settings, where an extra
setting called `wording` takes the place of the wording. -/

namespace SynonymLookup

namespace Json

theorem openRecord?_ofFields (names : List String) (fields : List (String × Json)) :
    (ofFields fields).openRecord? names = some ⟨(KeyMap.ofList fields).entries⟩ := by
  simp [ofFields, openRecord?, KeyMap.countP_key_le_one]

theorem record?_ofFields (names : List String) (fields : List (String × Json)) :
    (ofFields fields).record? names = some ⟨(KeyMap.ofList fields).entries⟩ :=
  openRecord?_ofFields names fields

end Json

namespace Record

theorem get?_ofList (fields : List (String × Json)) (name : String) :
    (Record.mk (KeyMap.ofList fields).entries).get? name = KeyMap.findEntry name fields.reverse :=
  KeyMap.get?_ofList name fields

theorem others?_eq (r : Record) (names : List String) :
    r.others? names = some (KeyMap.ofList
      ((r.fields.filter fun f => !names.contains f.1).map fun f => (f.1, f.2.normalize))) := by
  have h (l : List (String × Json)) :
      (l.mapM fun f => (Json.any? f.2).map fun v => (f.1, v)) =
        some (l.map fun f => (f.1, f.2.normalize)) :=
    List.mapM_pure
  simp [others?, Json.map?, h]

end Record

namespace ProviderConfiguration

/-- No extra setting is called `wording`, and all of them are normal values. -/
structure Plain (p : ProviderConfiguration) : Prop where
  wording : p.extra.get? "wording" = none
  normal : ∀ value ∈ p.extra.values, value.IsNormal

/-- The wording never counts among the other settings that were read. -/
theorem plain_of_ofJson? {j : Json} {p : ProviderConfiguration} (h : ofJson? j = some p) :
    p.Plain := by
  unfold ofJson? at h
  obtain ⟨r, -, h⟩ := Option.bind_eq_some_iff.1 h
  obtain ⟨w, -, h⟩ := Option.bind_eq_some_iff.1 h
  obtain ⟨extra, hextra, h⟩ := Option.bind_eq_some_iff.1 h
  rw [Record.others?_eq, Option.some.injEq] at hextra
  have hp : p.extra = extra := by cases h; rfl
  rw [← hextra] at hp
  constructor
  · rw [hp, KeyMap.get?_ofList, KeyMap.findEntry_eq_none_iff]
    intro e he
    simp only [List.mem_reverse, List.mem_map, List.mem_filter] at he
    obtain ⟨f, ⟨-, hf⟩, rfl⟩ := he
    simpa using hf
  · intro value hvalue
    rw [hp] at hvalue
    obtain ⟨e, he, rfl⟩ := List.mem_map.1 hvalue
    obtain ⟨f, -, rfl⟩ := List.mem_map.1 (KeyMap.mem_of_mem_ofList he)
    exact Json.isNormal_normalize f.2

theorem Plain.insert {p : ProviderConfiguration} (h : p.Plain) {name : String} {value : Json}
    (hname : name ≠ "wording") (hvalue : value.IsNormal) :
    Plain { p with extra := p.extra.insert name value } := by
  refine ⟨by simpa [hname] using h.wording, fun v hv => ?_⟩
  obtain ⟨e, he, rfl⟩ := List.mem_map.1 hv
  rcases KeyMap.mem_insertEntry he with rfl | he
  · exact hvalue
  · exact h.normal e.2 (List.mem_map_of_mem he)

theorem extra_wording_submit {p : ProviderConfiguration} (h : p.extra.get? "wording" = none)
    (values : Json) : (p.submit values).extra.get? "wording" = none := by
  unfold submit
  generalize values.fields?.getD [] = fields
  induction fields generalizing p with
  | nil => exact h
  | cons f rest ih =>
    apply ih
    by_cases hf : f.1 = "wording"
    · simpa [hf] using h
    · simpa [hf] using h

theorem Plain.submit {p : ProviderConfiguration} (h : p.Plain) {values : Json}
    (hvalues : values.IsNormal) : (p.submit values).Plain := by
  have hfields : ∀ f ∈ values.fields?.getD [], f.2.IsNormal := fun _ hf => hvalues.of_mem_fields? hf
  unfold ProviderConfiguration.submit
  generalize values.fields?.getD [] = fields at hfields
  induction fields generalizing p with
  | nil => exact h
  | cons f rest ih =>
    refine ih ?_ fun f hf => hfields f (List.mem_cons_of_mem _ hf)
    by_cases hf : f.1 = "wording"
    · have hkept : Plain { p with wording := f.2.string?.getD "" } := ⟨h.wording, h.normal⟩
      simpa [hf] using hkept
    · simpa [hf] using h.insert hf (hfields f List.mem_cons_self)

theorem ofJson?_toJson {p : ProviderConfiguration} (h : p.extra.get? "wording" = none) :
    ofJson? p.toJson = some { p with extra := p.extra.map Json.normalize } := by
  -- of two entries the last counts, so the wording is read back if no extra setting has its name
  have hlast : KeyMap.findEntry "wording" p.extra.entries.reverse = none := by
    rw [KeyMap.findEntry_eq_none_iff]
    intro e he
    exact KeyMap.findEntry_eq_none_iff.1 h e (List.mem_reverse.1 he)
  have hothers : ((KeyMap.ofList (("wording", Json.string p.wording) :: p.extra.entries)).filter
      fun name _ => !(["wording"].contains name)) = p.extra := by
    refine KeyMap.ext_get? fun name => ?_
    rw [KeyMap.get?_filter, KeyMap.get?_ofList, List.reverse_cons, KeyMap.findEntry_append,
      ← KeyMap.get?_ofList, KeyMap.ofList_entries]
    by_cases hname : name = "wording"
    · simp [hname, h]
    · cases p.extra.get? name <;> simp [hname, Ne.symm hname, KeyMap.findEntry]
  have hnormal : KeyMap.ofList (p.extra.entries.map fun f => (f.1, f.2.normalize)) =
      p.extra.map Json.normalize := KeyMap.ofList_entries (p.extra.map Json.normalize)
  unfold ofJson? toJson
  rw [Json.openRecord?_ofFields]
  generalize hr : Record.mk (KeyMap.ofList (("wording", Json.string p.wording) ::
    p.extra.entries)).entries = r
  have hget : r.get? "wording" = some (.string p.wording) := by
    rw [← hr, Record.get?_ofList, List.reverse_cons, KeyMap.findEntry_append, hlast]
    rfl
  have hwording : r.withDefault "wording" Json.string? "" = some p.wording := by
    simp [Record.withDefault, hget, Json.string?]
  have hextra : r.others? ["wording"] = some (p.extra.map Json.normalize) := by
    rw [Record.others?_eq, ← hnormal, ← congrArg KeyMap.entries hothers, ← hr]
    rfl
  simp [hwording, hextra]

theorem Plain.ofJson?_toJson {p : ProviderConfiguration} (h : p.Plain) :
    ofJson? p.toJson = some p := by
  have hsame : p.extra.map Json.normalize = p.extra := by
    ext1
    refine (List.map_congr_left fun e he => ?_).trans (List.map_id' p.extra.entries)
    rw [h.normal e.2 (List.mem_map_of_mem he)]
  rw [ProviderConfiguration.ofJson?_toJson h.wording, hsame]

theorem isSome_ofJson?_toJson {p : ProviderConfiguration} (h : p.extra.get? "wording" = none) :
    (ofJson? p.toJson).isSome = true := by simp [ofJson?_toJson h]

end ProviderConfiguration

namespace Configuration

theorem ofJson?_toJson (c : Configuration) :
    ofJson? c.toJson =
      (ProviderConfiguration.ofJson? c.settings.toJson).map fun s => { c with settings := s } := by
  unfold ofJson? toJson
  rw [Json.record?_ofFields]
  generalize hr : Record.mk (KeyMap.ofList [("id", Json.string c.id),
    ("provider_plugin", .string c.plugin), ("base_provider_plugin", .string c.basePlugin),
    ("provider_configuration", c.settings.toJson)]).entries = r
  have hid : r.required "id" Json.string? = some c.id := by
    simp [← hr, Record.required, Record.get?_ofList, KeyMap.findEntry, Json.string?]
  have hplugin : r.required "provider_plugin" Json.string? = some c.plugin := by
    simp [← hr, Record.required, Record.get?_ofList, KeyMap.findEntry, Json.string?]
  have hbase : r.withDefault "base_provider_plugin" Json.string? "" = some c.basePlugin := by
    simp [← hr, Record.withDefault, Record.get?_ofList, KeyMap.findEntry, Json.string?]
  have hsettings : r.withDefault "provider_configuration" ProviderConfiguration.ofJson? {} =
      ProviderConfiguration.ofJson? c.settings.toJson := by
    simp [← hr, Record.withDefault, Record.get?_ofList, KeyMap.findEntry]
  simp only [Option.bind_eq_bind, Option.bind_some, hid, hplugin, hbase, hsettings]
  cases ProviderConfiguration.ofJson? c.settings.toJson <;> rfl

theorem ofJson?_toJson_names {c found : Configuration} (h : ofJson? c.toJson = some found) :
    found.id = c.id ∧ found.plugin = c.plugin := by
  rw [ofJson?_toJson, Option.map_eq_some_iff] at h
  obtain ⟨settings, -, rfl⟩ := h
  exact ⟨rfl, rfl⟩

theorem plain_of_ofJson? {j : Json} {c : Configuration} (h : ofJson? j = some c) :
    c.settings.Plain := by
  unfold ofJson? at h
  obtain ⟨r, -, h⟩ := Option.bind_eq_some_iff.1 h
  obtain ⟨id, -, h⟩ := Option.bind_eq_some_iff.1 h
  obtain ⟨plugin, -, h⟩ := Option.bind_eq_some_iff.1 h
  obtain ⟨base, -, h⟩ := Option.bind_eq_some_iff.1 h
  obtain ⟨settings, hs, h⟩ := Option.bind_eq_some_iff.1 h
  have hc : c.settings = settings := by cases h; rfl
  rw [hc]
  unfold Record.withDefault at hs
  split at hs
  · cases hs
    exact ⟨rfl, fun value hvalue => nomatch hvalue⟩
  · exact ProviderConfiguration.plain_of_ofJson? hs

theorem ofJson?_toJson_of_plain {c : Configuration} (h : c.settings.Plain) :
    ofJson? c.toJson = some c := by
  rw [ofJson?_toJson, h.ofJson?_toJson]
  rfl

end Configuration
end SynonymLookup
