import SynonymLookup.Proofs.Settings.Writes

/-! Registered settings of autocomplete: a key resolves to the settings it was answered for,
whatever is written afterwards, and stands for these settings only. -/

namespace SynonymLookup
namespace Autocomplete

open Service AutocompleteSettings

variable {s : Service}

theorem settings_on (up : s.Up .configGet) {key : String} {x : AutocompleteSettings}
    (h : s.blobs.get? key = some x.toJson) : (settings key).on s = (.ok (some x), s) :=
  Repository.getStored_of_get? up h (ofJson?_toJson x)

theorem mem_registered_of_mem {ws : List Write} {x : AutocompleteSettings} {key : String}
    (h : (x, key) ∈ registrations ws s) : x ∈ registered ws s := List.mem_map_of_mem h

/-- Settings that were registered are found under their key after all writes that follow. -/
theorem settings_of_registered (up : s.Up .configGet) {ws : List Write} {x : AutocompleteSettings}
    (free : CollisionFree (registered ws s)) (hx : x ∈ registered ws s) :
    (settings x.key).on (runAll ws s) = (.ok (some x), runAll ws s) := by
  refine settings_on (up_runAll.2 up) ?_
  rw [get?_runAll fun y hy hkey => (free.key_inj hy hx).1 hkey, if_pos hx]

/-- Whatever is written between and after the registrations, the key answered for settings resolves
to these settings, and two keys are the same only for the same settings. -/
theorem registered_settings_resolve (up : s.Up .configGet) (ws later : List Write)
    (free : CollisionFree (registered (ws ++ later) s)) :
    (∀ x key, (x, key) ∈ registrations ws s →
      (settings key).on (runAll (ws ++ later) s) = (.ok (some x), runAll (ws ++ later) s)) ∧
    (∀ x key y key', (x, key) ∈ registrations (ws ++ later) s →
      (y, key') ∈ registrations (ws ++ later) s → (key = key' ↔ x = y)) ∧
    (s.Up .configSet → registered (ws ++ later) s = (ws ++ later).filterMap Write.settings?) := by
  refine ⟨fun x key h => ?_, fun x key y key' h h' => ?_, registered_of_up⟩
  · have hall : (x, key) ∈ registrations (ws ++ later) s := by
      rw [registrations_append]
      exact List.mem_append_left _ h
    rw [key_of_mem_registrations h]
    exact settings_of_registered up free (mem_registered_of_mem hall)
  · rw [key_of_mem_registrations h, key_of_mem_registrations h']
    exact free.key_inj (mem_registered_of_mem h) (mem_registered_of_mem h')

def wide : AutocompleteSettings := { targetType := "node" }

def narrow : AutocompleteSettings := { targetType := "node", size := 5 }

/-- The settings are registered with other writes between them, one of them twice. -/
def firstWrites : List Write :=
  [.register wide, .saveWording ⟨.default⟩, .register narrow]

def laterWrites : List Write :=
  [.saveListField ⟨true⟩, .deleteSetting "entity_autocomplete" "node" "page", .register wide]

theorem registered_writes : registered (firstWrites ++ laterWrites) {} = [wide, narrow, wide] :=
  registered_of_up (s := {}) rfl

set_option maxRecDepth 100000 in
theorem digest_wide_ne : Sha256.digest wide.bytes ≠ Sha256.digest narrow.bytes := by
  unfold AutocompleteSettings.bytes
  rw [Sha256.toList_eq_data, Sha256.toList_eq_data]
  decide +kernel

theorem collisionFree_writes : CollisionFree (registered (firstWrites ++ laterWrites) {}) := by
  have hne := digest_wide_ne
  rw [registered_writes]
  have hboth {z : AutocompleteSettings} (hz : z ∈ [wide, narrow, wide]) : z = wide ∨
      z = narrow := by
    simp only [List.mem_cons, List.not_mem_nil, or_false] at hz
    rcases hz with hz | hz | hz
    exacts [.inl hz, .inr hz, .inl hz]
  intro x hx y hy hdigest
  rcases hboth hx with rfl | rfl <;> rcases hboth hy with rfl | rfl
  · rfl
  · exact absurd hdigest hne
  · exact absurd hdigest.symm hne
  · rfl

theorem registered_settings_resolve_among_writes :
    Service.Up {} .configGet ∧ CollisionFree (registered (firstWrites ++ laterWrites) {}) ∧
    (settings narrow.key).on (runAll (firstWrites ++ laterWrites) {}) =
      (.ok (some narrow), runAll (firstWrites ++ laterWrites) {}) ∧
    wide.key ≠ narrow.key := by
  have hresolve := registered_settings_resolve (s := {}) rfl firstWrites laterWrites
    collisionFree_writes
  refine ⟨rfl, collisionFree_writes, hresolve.1 narrow narrow.key ?_, fun hkey => ?_⟩
  · exact List.mem_cons_of_mem _ List.mem_cons_self
  · have hsame := (hresolve.2.1 wide wide.key narrow narrow.key List.mem_cons_self
      (List.mem_cons_of_mem _ List.mem_cons_self)).1 hkey
    revert hsame
    decide

end Autocomplete
end SynonymLookup
