import SyncQueue.Queue.World

/-!
# Computations at a world

What a computation does at a world, for each way of building computations. With these equations a
computation is followed statement by statement.
-/

namespace SyncQueue

variable {σ α β ε : Type}

theorem pure_apply (a : α) (w : σ) : (pure a : EStateM ε σ α) w = .ok a w := rfl

theorem bind_apply (x : EStateM ε σ α) (f : α → EStateM ε σ β) (w : σ) :
    (x >>= f) w =
      match x w with
      | .ok a w => f a w
      | .error e w => .error e w := by
  change EStateM.bind x f w = _
  unfold EStateM.bind
  cases x w <;> rfl

theorem map_apply (f : α → β) (x : EStateM ε σ α) (w : σ) :
    (f <$> x) w =
      match x w with
      | .ok a w => .ok (f a) w
      | .error e w => .error e w := by
  change EStateM.map f x w = _
  unfold EStateM.map
  cases x w <;> rfl

theorem throw_apply (e : ε) (w : σ) : (throw e : EStateM ε σ α) w = .error e w := rfl

theorem get_apply (w : σ) : (get : EStateM ε σ σ) w = .ok w w := rfl

theorem modify_apply (f : σ → σ) (w : σ) : (modify f : EStateM ε σ Unit) w = .ok () (f w) := rfl

theorem modifyGet_apply (f : σ → α × σ) (w : σ) :
    (modifyGet f : EStateM ε σ α) w = .ok (f w).1 (f w).2 := rfl

theorem clock_apply (w : World σ) : clock w = .ok w.now w := rfl

theorem log_apply (notice : Notice) (w : World σ) :
    log notice w = .ok () (w.logged notice) := rfl

theorem emit_apply (e : Event) (w : World σ) : emit e w = .ok () (w.emitted e) := rfl

theorem recover_apply (x : QueueM σ α) (handle : QueueError → QueueM σ α) (w : World σ) :
    recover x handle w =
      match x w with
      | .ok a w => .ok a w
      | .error e w => handle e w := rfl

end SyncQueue
