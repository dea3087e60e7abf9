import SynonymLookup.Behavior.Settings
import SynonymLookup.Proofs.Configuration.Repository

/-! The switch of a behavior for a bundle. -/

namespace SynonymLookup
namespace Behaviors

open Service Repository

def isOn (s : Service) (behavior entityType bundle : String) : Bool :=
  (((s.blobs.get? (Behavior.settingKey behavior entityType bundle)).bind fun j =>
    j.field? "status").bind Json.flag?).getD false

theorem eq_of_isEnabled {s : Service} {behavior entityType bundle : String} {enabled : Bool}
    (h : ((isEnabled behavior entityType bundle).on s).1 = .ok enabled) :
    enabled = isOn s behavior entityType bundle := by
  unfold isEnabled at h
  rcases getProperty_on (Behavior.settingKey behavior entityType bundle) "status" s with
    hstatus | ⟨e, hstatus⟩
  · rw [Step.on_bind_ok hstatus] at h
    exact (Except.ok.inj h).symm
  · rw [Step.on_bind_error hstatus] at h
    cases h

end Behaviors
end SynonymLookup
