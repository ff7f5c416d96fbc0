import Mathlib.Data.List.Basic

/-!
# What a computation leaves behind

A computation on a state may return or throw, and the state it has reached is kept either way. Where
only the state matters, `try`, `catch` and `finally` follow one another: a handler or a finalizer
starts from what was left before it.
-/

namespace Yoshino.Library

variable {ε σ α β : Type}

/-- The state in which a computation ends, whether it returns or throws. -/
def finalState (x : EStateM ε σ α) (s : σ) : σ :=
  match x s with
  | .ok _ s' => s'
  | .error _ s' => s'

/-- Returning a value leaves the state alone. -/
@[simp] theorem finalState_pure (a : α) (s : σ) :
    finalState (pure a : EStateM ε σ α) s = s := rfl

/-- A modification is the final state. -/
@[simp] theorem finalState_modify (f : σ → σ) (s : σ) :
    finalState (modify f : EStateM ε σ PUnit) s = f s := rfl

/-- Reading the state hands it on. -/
@[simp] theorem finalState_get_bind (f : σ → EStateM ε σ α) (s : σ) :
    finalState (get >>= f) s = finalState (f s) s := rfl

/-- A change of the state comes before what follows it. -/
@[simp] theorem finalState_modify_bind (f : σ → σ) (x : PUnit → EStateM ε σ α) (s : σ) :
    finalState (modify f >>= x) s = finalState (x ⟨⟩) (f s) := rfl

/-- A computation that returns is followed by the next one. -/
theorem finalState_bind_of_ok {x : EStateM ε σ α} {s s' : σ} {a : α} (h : x s = .ok a s')
    (f : α → EStateM ε σ β) : finalState (x >>= f) s = finalState (f a) s' := by
  have hbind : (x >>= f) s = f a s' := by
    change EStateM.bind x f s = f a s'
    rw [EStateM.bind, h]
  rw [finalState, hbind, finalState]

/-- A computation that throws is not. -/
theorem finalState_bind_of_error {x : EStateM ε σ α} {s s' : σ} {e : ε} (h : x s = .error e s')
    (f : α → EStateM ε σ β) : finalState (x >>= f) s = s' := by
  have hbind : (x >>= f) s = .error e s' := by
    change EStateM.bind x f s = .error e s'
    rw [EStateM.bind, h]
  rw [finalState, hbind]

/-- A handler that leaves the state alone leaves what the computation has left. -/
theorem finalState_tryCatch {x : EStateM ε σ α} {handler : ε → EStateM ε σ α}
    (hstill : ∀ e s, finalState (handler e) s = s) (s : σ) :
    finalState (tryCatch x handler) s = finalState x s := by
  have hcatch : (tryCatch x handler) s =
      match x s with
      | .ok a s' => .ok a s'
      | .error e s' => handler e s' := by
    change EStateM.tryCatch x handler s = _
    unfold EStateM.tryCatch
    cases x s <;> rfl
  cases hx : x s with
  | ok a s' => simp only [finalState, hcatch, hx]
  | error e s' =>
    rw [hx] at hcatch
    have hhandler := hstill e s'
    simp only [finalState] at hhandler ⊢
    rw [hcatch, hhandler, hx]

/-- A finalizer starts from what the computation has left, however that ended. -/
theorem finalState_tryFinally (x : EStateM ε σ α) (finalizer : EStateM ε σ β) (s : σ) :
    finalState (tryFinally x finalizer) s = finalState finalizer (finalState x s) := by
  cases hx : x s with
  | ok a s' => cases hf : finalizer s' <;>
      simp [finalState, tryFinally, tryFinally', Functor.map, EStateM.map, hx, hf]
  | error e s' => cases hf : finalizer s' <;>
      simp [finalState, tryFinally, tryFinally', Functor.map, EStateM.map, hx, hf]

end Yoshino.Library
