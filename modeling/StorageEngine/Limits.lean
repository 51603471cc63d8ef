import StorageEngine.Error

/-!
# Limits of one storage

A storage bounds its queue and its listener table.  Both bounds have defaults, and neither may be
zero.
-/

namespace StorageEngine

/-- How many requests may wait and how many listeners may be registered. -/
structure Limits where
  queueCapacity : Nat := 512
  listenerCapacity : Nat := 64
  deriving DecidableEq, Inhabited

namespace Limits

/-- A zero bound is refused; the queue is looked at first. -/
def validate (l : Limits) : Except Error Unit :=
  if l.queueCapacity = 0 then .error (.invalidConfig "queue_capacity must be > 0")
  else if l.listenerCapacity = 0 then .error (.invalidConfig "listener_capacity must be > 0")
  else .ok ()

theorem validate_eq_ok_iff (l : Limits) :
    l.validate = .ok () ↔ 0 < l.queueCapacity ∧ 0 < l.listenerCapacity := by
  unfold validate
  split
  · simp_all
  · split
    · simp_all
    · simp only [true_iff]
      omega

end Limits

end StorageEngine
