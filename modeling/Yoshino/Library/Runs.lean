import Mathlib.Data.List.Basic

/-!
# Runs of a deterministic transition function

A system is a total step function on states and events; an event that is not enabled
leaves the state alone. Every finite event sequence is a run, so a statement about all
sequences is a statement about every state a run reaches. A guarded run additionally
records that each step meets a condition in the state in which it is taken.
-/

namespace Yoshino.Library

variable {S E : Type*}

/-- The state reached from `s` by a finite sequence of events. -/
def run (step : S → E → S) (s : S) (events : List E) : S := events.foldl step s

/-- Each step of the run meets the guard in the state before it. -/
def StepsMeet (step : S → E → S) (guard : S → E → Prop) : S → List E → Prop
  | _, [] => True
  | s, e :: rest => guard s e ∧ StepsMeet step guard (step s e) rest

/-- Whether a run meets a decidable guard can be computed. -/
instance instDecidableStepsMeet (step : S → E → S) (guard : S → E → Prop)
    [hguard : ∀ s e, Decidable (guard s e)] :
    (s : S) → (events : List E) → Decidable (StepsMeet step guard s events)
  | _, [] => .isTrue trivial
  | s, e :: rest =>
    haveI := instDecidableStepsMeet step guard (step s e) rest
    inferInstanceAs (Decidable (guard s e ∧ StepsMeet step guard (step s e) rest))

variable {step : S → E → S} {guard : S → E → Prop}

/-- The empty run stays where it is. -/
@[simp] theorem run_nil (s : S) : run step s [] = s := rfl

/-- A run takes its first event first. -/
@[simp] theorem run_cons (s : S) (e : E) (rest : List E) :
    run step s (e :: rest) = run step (step s e) rest := rfl

/-- Runs compose along concatenation of their event sequences. -/
theorem run_append (s : S) (first second : List E) :
    run step s (first ++ second) = run step (run step s first) second := List.foldl_append

/-- The last event of a run acts on the state the earlier events reach. -/
theorem run_concat (s : S) (events : List E) (e : E) :
    run step s (events ++ [e]) = step (run step s events) e := by
  rw [run_append, run_cons, run_nil]

/-- A run whose events are all without effect in a state stays there. -/
theorem run_eq_self {s : S} {events : List E} (hidle : ∀ e ∈ events, step s e = s) :
    run step s events = s := by
  induction events with
  | nil => rfl
  | cons e rest ih =>
    obtain ⟨he, hrest⟩ := List.forall_mem_cons.mp hidle
    rw [run_cons, he, ih hrest]

/-- A guarded run splits into two guarded runs. -/
theorem stepsMeet_append (s : S) (first second : List E) :
    StepsMeet step guard s (first ++ second) ↔
      StepsMeet step guard s first ∧ StepsMeet step guard (run step s first) second := by
  induction first generalizing s with
  | nil => simp [StepsMeet]
  | cons e rest ih => simp only [List.cons_append, StepsMeet, run_cons, ih, and_assoc]

/-- A predicate that every guarded step preserves holds at the end of every guarded run. -/
theorem run_invariant (inv : S → Prop) (hstep : ∀ s e, inv s → guard s e → inv (step s e))
    (s : S) (events : List E) (hs : inv s) (hguard : StepsMeet step guard s events) :
    inv (run step s events) := by
  induction events generalizing s with
  | nil => exact hs
  | cons e rest ih => exact ih (step s e) (hstep s e hs hguard.1) hguard.2

/-- When a guard says exactly which steps preserve a predicate, the runs that meet the guard are
those along which the predicate holds throughout. -/
theorem stepsMeet_iff_invariant (inv : S → Prop)
    (hstep : ∀ s e, inv s → (inv (step s e) ↔ guard s e)) (s : S) (events : List E) (hs : inv s) :
    StepsMeet step guard s events ↔ ∀ first, first <+: events → inv (run step s first) := by
  induction events generalizing s with
  | nil =>
    refine ⟨fun _ first hfirst => ?_, fun _ => trivial⟩
    rw [List.prefix_nil.mp hfirst]
    exact hs
  | cons e rest ih =>
    constructor
    · rintro ⟨he, hrest⟩ first hfirst
      have hnext := (hstep s e hs).mpr he
      cases first with
      | nil => exact hs
      | cons e' first' =>
        obtain ⟨rfl, hfirst'⟩ := List.cons_prefix_cons.mp hfirst
        exact (ih (step s e') hnext).mp hrest first' hfirst'
    · intro h
      have hnext : inv (step s e) := h [e] (List.cons_prefix_cons.mpr ⟨rfl, List.nil_prefix⟩)
      refine ⟨(hstep s e hs).mp hnext, (ih (step s e) hnext).mpr fun first hfirst => ?_⟩
      exact h (e :: first) (List.cons_prefix_cons.mpr ⟨rfl, hfirst⟩)

/-- A predicate that every step preserves holds at the end of every run. -/
theorem run_invariant_of_step (inv : S → Prop) (hstep : ∀ s e, inv s → inv (step s e))
    (s : S) (events : List E) (hs : inv s) : inv (run step s events) := by
  induction events generalizing s with
  | nil => exact hs
  | cons e rest ih => exact ih (step s e) (hstep s e hs)

/-- An observation that no step changes is the same at both ends of a run. -/
theorem run_observation {O : Type*} (observe : S → O)
    (hstep : ∀ s e, observe (step s e) = observe s) (s : S) (events : List E) :
    observe (run step s events) = observe s := by
  induction events generalizing s with
  | nil => rfl
  | cons e rest ih => rw [run_cons, ih, hstep]

/-- The number of steps of a run that satisfy a test in the state before them. -/
def stepCount (step : S → E → S) (test : S → E → Bool) : S → List E → Nat
  | _, [] => 0
  | s, e :: rest => (if test s e then 1 else 0) + stepCount step test (step s e) rest

/-- A step that passes the test at most once: passing it leads to a state that lasts and in which
no step passes. -/
theorem stepCount_le_one {test : S → E → Bool} (inv : S → Prop)
    (hstep : ∀ s e, inv s → guard s e → inv (step s e))
    (hblocked : ∀ s e, inv s → test s e = false)
    (hpassed : ∀ s e, guard s e → test s e = true → inv (step s e))
    (s : S) (events : List E) (hguard : StepsMeet step guard s events) :
    stepCount step test s events ≤ 1 := by
  have hzero : ∀ (s : S) (events : List E), inv s → StepsMeet step guard s events →
      stepCount step test s events = 0 := by
    intro s events hs hguard
    induction events generalizing s with
    | nil => rfl
    | cons e rest ih =>
      simp [stepCount, hblocked s e hs, ih (step s e) (hstep s e hs hguard.1) hguard.2]
  induction events generalizing s with
  | nil => exact Nat.zero_le 1
  | cons e rest ih =>
    cases htest : test s e with
    | true =>
      simp [stepCount, htest, hzero (step s e) rest (hpassed s e hguard.1 htest) hguard.2]
    | false =>
      simpa [stepCount, htest] using ih (step s e) hguard.2

end Yoshino.Library
