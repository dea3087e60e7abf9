import SynonymLookup.Proofs.Http.Search
import SynonymLookup.Proofs.Settings.Writes

/-! Suggestions over the wire. The key is the client's, and it is looked up among all settings: a
key that was never registered finds nothing to suggest by, whatever other services have stored, but
it is told apart whether one of them has stored something there. -/

namespace SynonymLookup

open Service

namespace Autocomplete

variable {s : Service}

def unregistered (s : Service) (key : String) : LookupError :=
  if s.blobs.contains key then .storage (.malformedValue key none) else .configurationNotFound key

theorem lookup_unregistered (up : s.Up .configGet) {key : String}
    (h : ∀ j, s.blobs.get? key = some j → AutocompleteSettings.ofJson? j = none)
    (keyword : String) : (lookup keyword key).on s = (.error (unregistered s key), s) := by
  have hblob := Repository.getBlob_of_up up key
  unfold unregistered KeyMap.contains
  cases hstored : s.blobs.get? key with
  | none =>
    rw [hstored] at hblob
    have hsettings : (settings key).on s = (.ok none, s) := Step.on_bind_ok hblob
    exact Step.on_bind_ok hsettings
  | some j =>
    rw [hstored] at hblob
    have hform : (JsonForm.ofJson? j : Option AutocompleteSettings) = none := h j hstored
    have hsettings : (settings key).on s = (.error (.storage (.malformedValue key none)), s) := by
      rw [settings, getStored, Step.on_bind_ok hblob]
      simp only [hform]
      rfl
    exact Step.on_bind_error hsettings

/-- Nothing that reads as settings of autocomplete stands under a key that was not registered. -/
theorem ofJson?_of_unregistered (empty : s.blobs = .empty) {ws : List Write} {key : String}
    (hkey : key ∉ (registrations ws s).map (·.2)) (j : Json)
    (hj : (runAll ws s).blobs.get? key = some j) : AutocompleteSettings.ofJson? j = none := by
  by_contra hread
  rcases of_get?_runAll hj (Option.isSome_iff_ne_none.2 hread) with hbefore | hregistered
  · rw [empty] at hbefore
    cases hbefore
  · exact hkey hregistered

end Autocomplete

namespace Http

structure KeywordQuery where
  key : String
  keyword : String
deriving DecidableEq, Repr

/-- What a query asks suggestions for, none if a known parameter comes twice or the
key is missing. -/
def KeywordQuery.ofQuery? (query : String) : Option KeywordQuery :=
  let p : Parameters := ⟨Text.formPairs query⟩
  if ["key", "q"].all fun name => p.pairs.countP (·.1 == name) ≤ 1 then do
    return { key := ← p.get? "key", keyword := (p.get? "q").getD "" }
  else none

def sentSuggestions (l : List Suggestion) : Json :=
  Json.ofFields [("suggestions", .array (l.map Suggestion.toJson))]

theorem autocomplete_on (query : String) (s : Service) : match KeywordQuery.ofQuery? query with
    | none => ∃ r : Refusal, (autocomplete query).on s = (.error r, s) ∧ r.status = 400
    | some q => (autocomplete query).on s =
      (((Autocomplete.lookup q.keyword q.key).on s).1.map sentSuggestions |>.mapError .lookup,
        ((Autocomplete.lookup q.keyword q.key).on s).2) := by
  have hread := read_on ["key", "q"] query s
  have hrequire := require_on ⟨Text.formPairs query⟩ "key" s
  unfold KeywordQuery.ofQuery? autocomplete
  dsimp only
  split at hread
  · rename_i hunrepeated
    rw [if_pos hunrepeated, Handler.on_bind_ok hread]
    cases hkey : Parameters.get? ⟨Text.formPairs query⟩ "key" with
    | none =>
      rw [hkey] at hrequire
      exact ⟨_, Handler.on_bind_error hrequire, rfl⟩
    | some key =>
      rw [hkey] at hrequire
      rw [Handler.on_bind_ok hrequire]
      exact Handler.on_lookingUp _ sentSuggestions s
  · rename_i hrepeated
    rw [if_neg hrepeated]
    exact ⟨_, Handler.on_bind_error hread, rfl⟩

theorem answer_of_reading {base : BasePath} {method : String} {address : Address} {route : Route}
    (hroute : Route.ofPath? base address.path = some route)
    (hmethod : method = "GET" ∨ method = "HEAD") (s : Service) :
    ((answer base method address).run s).1.status =
        (Response.ofResult ((handle address.query route).on s).1).status ∧
      ((answer base method address).run s).2 = ((handle address.query route).on s).2 := by
  unfold answer
  rw [hroute]
  rcases hmethod with rfl | rfl
  · exact ⟨rfl, rfl⟩
  · simp only [if_neg (show ¬"HEAD" = "GET" by decide), if_true]
    exact ⟨rfl, rfl⟩

theorem status_unregistered (s : Service) (key : String) :
    (Refusal.lookup (Autocomplete.unregistered s key)).status =
      if s.blobs.contains key then 500 else 400 := by
  unfold Autocomplete.unregistered
  split <;> rfl

/-- A key that was never registered is refused for every keyword, and the state is left as it is. It
is told as not found, and over the wire as the client's fault, exactly where nothing is stored under
it; what another service has stored there is an internal error that shows nothing of it. -/
theorem unregistered_key_refused {s : Service} (empty : s.blobs = .empty) (up : s.Up .configGet)
    (ws : List Write) {key : String} (hkey : key ∉ (registrations ws s).map (·.2)) :
    (∀ keyword, (Autocomplete.lookup keyword key).on (runAll ws s) =
      (.error (if (runAll ws s).blobs.contains key then .storage (.malformedValue key none)
        else .configurationNotFound key), runAll ws s)) ∧
    ∀ base method address keyword, Route.ofPath? base address.path = some .autocomplete →
      KeywordQuery.ofQuery? address.query = some ⟨key, keyword⟩ → method = "GET" ∨ method = "HEAD" →
      ((answer base method address).run (runAll ws s)).1.status =
          (if (runAll ws s).blobs.contains key then 500 else 400) ∧
        ((answer base method address).run (runAll ws s)).2 = runAll ws s := by
  have hlookup := Autocomplete.lookup_unregistered (up_runAll.2 up)
    (Autocomplete.ofJson?_of_unregistered empty hkey)
  refine ⟨hlookup, fun base method address keyword hroute hquery hmethod => ?_⟩
  have hon := autocomplete_on address.query (runAll ws s)
  rw [hquery] at hon
  dsimp only at hon
  rw [hlookup] at hon
  obtain ⟨hstatus, hstate⟩ := answer_of_reading hroute hmethod (runAll ws s)
  rw [hstatus, hstate, handle, hon, ← status_unregistered]
  exact ⟨rfl, rfl⟩

theorem not_registered {key : String} (h : key.toList[8]? ≠ some '_') (ws : List Write)
    (s : Service) : key ∉ (registrations ws s).map (·.2) := by
  intro hkey
  obtain ⟨⟨x, _⟩, hx, rfl⟩ := List.mem_map.1 hkey
  rw [key_of_mem_registrations hx] at h
  exact h x.getElem?_key

def widgetWrites : List Write :=
  [.register { targetType := "node" }, .saveWording { wordingType := .default }]

theorem contains_widgetWrites : (runAll widgetWrites {}).blobs.contains "widget" = false := by
  have hkey : ({ targetType := "node" } : AutocompleteSettings).key ≠ "widget" := by
    intro h
    have hninth := AutocompleteSettings.getElem?_key { targetType := "node" }
    rw [h] at hninth
    revert hninth
    decide
  have hblobs : (runAll widgetWrites {}).blobs =
      (KeyMap.empty.insert (AutocompleteSettings.key { targetType := "node" })
        (AutocompleteSettings.toJson { targetType := "node" })).insert ModuleSettings.key
          (ModuleSettings.toJson { wordingType := .default }) := rfl
  rw [hblobs]
  simp [KeyMap.contains, hkey, ModuleSettings.key]

theorem unregistered_key_refused_widget :
    "widget" ∉ (registrations widgetWrites {}).map (·.2) ∧
    (∀ keyword, (Autocomplete.lookup keyword "widget").on (runAll widgetWrites {}) =
      (.error (.configurationNotFound "widget"), runAll widgetWrites {})) ∧
    ((answer ⟨""⟩ "GET" ⟨"/autocomplete", "key=widget&q=owl"⟩).run
      (runAll widgetWrites {})).1.status = 400 := by
  have hkey : "widget" ∉ (registrations widgetWrites {}).map (·.2) :=
    not_registered (by decide) widgetWrites {}
  have hroute : Route.ofPath? ⟨""⟩ "/autocomplete" = some .autocomplete := by decide +kernel
  have hquery : KeywordQuery.ofQuery? "key=widget&q=owl" = some ⟨"widget", "owl"⟩ := by
    decide +kernel
  obtain ⟨hlookup, hanswer⟩ := unregistered_key_refused (s := {}) rfl rfl widgetWrites hkey
  rw [contains_widgetWrites] at hlookup hanswer
  exact ⟨hkey, hlookup,
    (hanswer ⟨""⟩ "GET" ⟨"/autocomplete", "key=widget&q=owl"⟩ "owl" hroute hquery (.inl rfl)).1⟩

/-- Under the key of the settings of all lookups, nothing is registered and nothing
is found missing. -/
theorem stored_key_told :
    ¬ ∀ ws key, key ∉ (registrations ws {}).map (·.2) → ∀ keyword,
      ((Autocomplete.lookup keyword key).on (runAll ws {})).1 =
        .error (.configurationNotFound key) := by
  intro h
  have hfound := h [.saveWording {}] ModuleSettings.key (not_registered (by decide) _ _) "owl"
  have hmalformed : ((Autocomplete.lookup "owl" ModuleSettings.key).on
      (runAll [.saveWording {}] {})).1 =
        .error (.storage (.malformedValue ModuleSettings.key none)) :=
    rfl
  rw [hmalformed] at hfound
  cases hfound

end Http
end SynonymLookup
