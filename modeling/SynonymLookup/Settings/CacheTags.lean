import SynonymLookup.KeyMap

/-! Cache tags: how often each was invalidated. A cache entry records the sum over its tags and is
stale once the sum has grown. -/

namespace SynonymLookup

structure CacheTags where
  counters : KeyMap Nat := .empty
deriving Inhabited

namespace CacheTags

def invalidations (t : CacheTags) (tag : String) : Nat := (t.counters.get? tag).getD 0

def checksum (t : CacheTags) (tags : List String) : Nat :=
  tags.foldl (fun n tag => n + t.invalidations tag) 0

def invalidate (t : CacheTags) (tags : List String) : CacheTags :=
  tags.foldl (fun t tag => ⟨t.counters.update tag fun n => n.getD 0 + 1⟩) t

@[simp] theorem invalidate_nil (t : CacheTags) : t.invalidate [] = t := rfl

@[simp] theorem invalidate_cons (t : CacheTags) (tag : String) (tags : List String) :
    t.invalidate (tag :: tags) =
      CacheTags.invalidate ⟨t.counters.update tag fun n => n.getD 0 + 1⟩ tags := rfl

theorem invalidations_invalidate (t : CacheTags) (tags : List String) (tag : String) :
    (t.invalidate tags).invalidations tag = t.invalidations tag + tags.count tag := by
  induction tags generalizing t with
  | nil => simp
  | cons head rest ih =>
    rw [invalidate_cons, ih]
    by_cases h : head = tag
    · subst h
      simp [invalidations, KeyMap.update, Nat.add_assoc, Nat.add_comm]
    · simp [invalidations, KeyMap.update, h]

end CacheTags

end SynonymLookup
