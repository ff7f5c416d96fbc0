import Mathlib.Data.List.Monad

/-!
# Runs of a transition function that may fail

A step gives the next state or none. A run fails with its first failing step, and the states that runs
reach are those that some sequence of events leads to.
-/

namespace Yoshino.Library

variable {S E : Type*}

/-- The state after a sequence of events, if none of them fails. -/
def tryRun (next : S → E → Option S) (s : S) (events : List E) : Option S := events.foldlM next s

/-- Some run leads from one state to the other. -/
def Reaches (next : S → E → Option S) (s s' : S) : Prop := ∃ events, tryRun next s events = some s'

variable {next : S → E → Option S} {s s' : S}

/-- A run makes its first step and goes on from there. -/
theorem tryRun_cons {e : E} {rest : List E} :
    tryRun next s (e :: rest) = (next s e).bind fun s => tryRun next s rest := by
  simp [tryRun, List.foldlM_cons]

/-- A run that can be computed shows that a state with a property is reached. -/
theorem Reaches.of_any (events : List E) (test : S → Bool) (h : (tryRun next s events).any test = true) :
    ∃ s', Reaches next s s' ∧ test s' = true := by
  cases hrun : tryRun next s events with
  | none => simp [hrun] at h
  | some s' => exact ⟨s', ⟨events, hrun⟩, by simpa [hrun] using h⟩

/-- Each step of a run meets the guard in the state before it, as far as the run goes. -/
def TryStepsMeet (next : S → E → Option S) (guard : S → E → Prop) : S → List E → Prop
  | _, [] => True
  | s, e :: rest => guard s e ∧ ∀ s', next s e = some s' → TryStepsMeet next guard s' rest

/-- What the guarded steps of a run preserve, as far as they do not fail, holds at its end. -/
theorem tryRun_invariant_of_meets {guard : S → E → Prop} {events : List E} (inv : S → Prop)
    (hstep : ∀ s s', ∀ e ∈ events, inv s → guard s e → next s e = some s' → inv s') (hs : inv s)
    (hguard : TryStepsMeet next guard s events) (hrun : tryRun next s events = some s') : inv s' := by
  induction events generalizing s with
  | nil =>
    obtain rfl := Option.some.inj hrun
    exact hs
  | cons e rest ih =>
    rw [tryRun_cons] at hrun
    obtain ⟨s₁, hfirst, hrest⟩ := Option.bind_eq_some_iff.mp hrun
    exact ih (fun s s' e he => hstep s s' e (List.mem_cons_of_mem _ he))
      (hstep s s₁ e List.mem_cons_self hs hguard.1 hfirst) (hguard.2 s₁ hfirst) hrest

/-- Every run meets the guard that asks for nothing. -/
theorem tryStepsMeet_trivial (s : S) (events : List E) : TryStepsMeet next (fun _ _ => True) s events := by
  induction events generalizing s with
  | nil => exact trivial
  | cons e rest ih => exact ⟨trivial, fun s' _ => ih s'⟩

/-- What the steps of a run preserve, as far as they do not fail, holds at its end. -/
theorem tryRun_invariant {events : List E} (inv : S → Prop)
    (hstep : ∀ s s', ∀ e ∈ events, inv s → next s e = some s' → inv s') (hs : inv s)
    (hrun : tryRun next s events = some s') : inv s' :=
  tryRun_invariant_of_meets inv (fun s s' e he hs _ => hstep s s' e he hs) hs
    (tryStepsMeet_trivial s events) hrun

/-- What every step that does not fail preserves holds in all states that runs reach. -/
theorem Reaches.invariant (h : Reaches next s s') (inv : S → Prop)
    (hstep : ∀ s e s', inv s → next s e = some s' → inv s') (hs : inv s) : inv s' := by
  obtain ⟨events, hrun⟩ := h
  exact tryRun_invariant inv (fun s s' e _ => hstep s e s') hs hrun

end Yoshino.Library
