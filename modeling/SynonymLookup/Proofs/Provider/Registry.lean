import SynonymLookup.Provider.Registry

/-! Providers as they are made by registered bases. -/

namespace SynonymLookup
namespace Registry

variable {r : Registry} {s : Schema} {plugin : String} {settings : ProviderConfiguration}

theorem mem_builtin {base : ProviderBase} :
    base ∈ builtin ↔ base = FieldProvider.base ∨ base = FieldProvider.configurable ∨
      base = ReferenceProvider.base := by simp [builtin]

/-- The bases part in what fields they take alone. -/
theorem derives_builtin {base : ProviderBase} (h : base ∈ builtin) :
    ∃ eligible, ∀ s, base.derive s = s.deriveFields base.id eligible := by
  rcases mem_builtin.1 h with rfl | rfl | rfl
  · exact ⟨_, fun _ => rfl⟩
  · exact ⟨_, fun _ => rfl⟩
  · exact ⟨_, fun _ => rfl⟩

theorem colon_notMem_builtin {base : ProviderBase} (h : base ∈ builtin) : ':' ∉ base.id.toList := by
  rcases mem_builtin.1 h with rfl | rfl | rfl <;> decide

theorem resolve?_eq_some {base : ProviderBase} {d : ProviderDefinition}
    (h : r.resolve? s plugin = some (base, d)) : base ∈ r ∧ d ∈ base.derive s ∧ d.id = plugin := by
  obtain ⟨⟨baseId, rest⟩, -, h⟩ := Option.bind_eq_some_iff.1 h
  obtain ⟨found, hbase, h⟩ := Option.bind_eq_some_iff.1 h
  obtain ⟨definition, hdefinition, hpair⟩ := Option.bind_eq_some_iff.1 h
  cases hpair
  have hid : d.id = plugin := by simpa using List.find?_some hdefinition
  exact ⟨List.mem_of_find?_eq_some hbase, List.mem_of_find?_eq_some hdefinition, hid⟩

theorem create_eq_ok {p : Provider} (h : r.create s plugin settings = .ok p) :
    ∃ base ∈ r, ∃ d ∈ base.derive s, d.id = plugin ∧ p = base.create s d settings := by
  unfold create at h
  split at h
  · rename_i base d hresolve
    obtain ⟨hbase, hd, hid⟩ := resolve?_eq_some hresolve
    cases h
    exact ⟨base, hbase, d, hd, hid, rfl⟩
  · cases h

theorem isQueryDefect_create {e : LookupError} (h : r.create s plugin settings = .error e) :
    e.isQueryDefect = false := by
  unfold create at h
  split at h
  · cases h
  · cases h
    rfl

/-- The providers of every base take over the settings they are made with. -/
def KeepsSettings (r : Registry) : Prop :=
  ∀ base ∈ r, ∀ s d c, (base.create s d c).configuration = c

theorem keepsSettings_builtin : builtin.KeepsSettings := by
  intro base hbase s d c
  rcases mem_builtin.1 hbase with rfl | rfl | rfl <;> rfl

theorem KeepsSettings.create (keeps : r.KeepsSettings) {p : Provider}
    (h : r.create s plugin settings = .ok p) : p.configuration = settings := by
  obtain ⟨base, hbase, d, -, -, rfl⟩ := create_eq_ok h
  exact keeps base hbase s d settings

end Registry
end SynonymLookup
