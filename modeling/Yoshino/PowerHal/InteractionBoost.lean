import Yoshino.PowerHal.InteractionHandler

/-!
# Holding and releasing the interaction boost

The `INTERACTION` hint is started on the way out of `IDLE` and ended on the way back, so it is
outstanding exactly while the state is `INTERACTION` or `WAITING`. `Exit` leaves these states
without ending the hint. The boost is paired in every state of exactly those runs in which `Exit`
finds the handler idle or not initialized.
-/

namespace Yoshino.PowerHal

open Yoshino.Library

/-- The call to the hint manager that a call of the handler makes. -/
def HandlerCall.hintCall : HandlerCall → Option HintCall
  | .perfLock => some (.doHint .interaction)
  | .perfRel => some (.endHint .interaction)
  | .acquire _ | .waitForIdle _ => none

/-- The calls to the hint manager, newest first. -/
def Handler.hintCalls (s : Handler) : List HintCall :=
  s.history.filterMap HandlerCall.hintCall

/-- The state in which the boost is wanted. -/
def Handler.boosting (s : Handler) : Bool :=
  s.mState == .interaction || s.mState == .waiting

/-- The boost is wanted in an initialized handler that is not idle. -/
theorem Handler.boosting_iff (s : Handler) :
    s.boosting = true ↔ s.mState ≠ .idle ∧ s.mState ≠ .uninitialized := by
  cases hstate : s.mState <;> simp [boosting, hstate]

/-- It is not wanted in the other two states. -/
theorem Handler.boosting_eq_false_iff (s : Handler) :
    s.boosting = false ↔ s.mState = .idle ∨ s.mState = .uninitialized := by
  cases hstate : s.mState <;> simp [boosting, hstate]

/-- The strictly alternating calls, newest first: a start, an end, a start and so on. -/
def alternation : Nat → List HintCall
  | 0 => []
  | n + 1 => (if n % 2 = 0 then .doHint .interaction else .endHint .interaction) :: alternation n

/-- Alternating calls leave the hint outstanding when their number is odd. -/
theorem outstanding_alternation (n : Nat) :
    outstanding .interaction (alternation n) = true ↔ n % 2 = 1 := by
  cases n with
  | zero => simp [alternation, outstanding]
  | succ n =>
    unfold alternation
    split
    next heven => simp [outstanding]; omega
    next hodd => simp [outstanding]; omega

/-- The hint is outstanding exactly while the boost is wanted, and its calls alternate. -/
structure Handler.Paired (s : Handler) : Prop where
  outstanding : outstanding .interaction s.hintCalls = true ↔ s.boosting = true
  alternating : s.hintCalls = alternation s.hintCalls.length

/-- A step that calls the hint manager for nothing keeps the boost paired. -/
theorem Handler.Paired.congr {s s' : Handler} (h : s.Paired) (hcalls : s'.hintCalls = s.hintCalls)
    (hboosting : s'.boosting = s.boosting) : s'.Paired :=
  ⟨by rw [hcalls, hboosting]; exact h.outstanding, by rw [hcalls]; exact h.alternating⟩

/-- The number of calls is odd exactly while the boost is wanted. -/
theorem Handler.Paired.parity {s : Handler} (h : s.Paired) :
    s.hintCalls.length % 2 = 1 ↔ s.boosting = true := by
  rw [← outstanding_alternation, ← h.alternating, h.outstanding]

/-- Starting the hint on the way out of a state without it keeps the boost paired. -/
theorem Handler.Paired.start {s s' : Handler} (h : s.Paired) (hbefore : s.boosting = false)
    (hcalls : s'.hintCalls = .doHint .interaction :: s.hintCalls) (hafter : s'.boosting = true) :
    s'.Paired := by
  have heven : s.hintCalls.length % 2 = 0 := by
    have hparity := h.parity
    rw [hbefore] at hparity
    have hnot : ¬ s.hintCalls.length % 2 = 1 := fun h => absurd (hparity.mp h) Bool.false_ne_true
    omega
  refine ⟨by rw [hcalls, hafter]; simp [PowerHal.outstanding], ?_⟩
  rw [hcalls, List.length_cons, alternation, if_pos heven, ← h.alternating]

/-- Ending the hint on the way out of a state with it keeps the boost paired. -/
theorem Handler.Paired.stop {s s' : Handler} (h : s.Paired) (hbefore : s.boosting = true)
    (hcalls : s'.hintCalls = .endHint .interaction :: s.hintCalls) (hafter : s'.boosting = false) :
    s'.Paired := by
  have hodd : ¬ s.hintCalls.length % 2 = 0 := by
    have hparity := h.parity.mpr hbefore
    omega
  refine ⟨by rw [hcalls, hafter]; simp [PowerHal.outstanding], ?_⟩
  rw [hcalls, List.length_cons, alternation, if_neg hodd, ← h.alternating]

/-- `Acquire` starts the hint exactly on the way out of `IDLE`. -/
theorem Handler.Paired.acquire {s : Handler} (h : s.Paired) (duration : Int32) (now : Timespec) :
    (s.acquire duration now).Paired := by
  rcases s.acquire_cases duration now with hsame | ⟨hinit, hnew⟩
  · rw [hsame]
    exact h
  · rw [hnew]
    by_cases hidle : s.mState = .idle
    · refine h.start (s.boosting_eq_false_iff.mpr (.inl hidle)) ?_ rfl
      rw [hintCalls, if_pos hidle]
      rfl
    · refine h.congr ?_ (s.boosting_iff.mpr ⟨hidle, hinit⟩).symm
      rw [hintCalls, if_neg hidle]
      rfl

/-- `Release` ends the hint exactly on the way back to `IDLE`. -/
theorem Handler.Paired.release {s : Handler} (h : s.Paired) : s.release.Paired := by
  unfold Handler.release
  split
  next hstate =>
    refine h.stop (s.boosting_iff.mpr (by simp [hstate])) ?_ rfl
    simp [hintCalls, record, HandlerCall.hintCall]
  · exact h.congr rfl rfl

/-- `Init` leaves an uninitialized handler idle. -/
theorem Handler.Paired.init {s : Handler} (h : s.Paired) (idleOpens eventOpens : Bool) :
    (s.init idleOpens eventOpens).Paired := by
  unfold Handler.init
  split
  · exact h
  next hstate =>
    split
    · exact h
    · split
      · exact h.congr rfl rfl
      · exact h.congr rfl (s.boosting_eq_false_iff.mpr (.inr (not_not.mp hstate))).symm

/-- The worker keeps the boost when it begins to wait. -/
theorem Handler.Paired.lock {s : Handler} (h : s.Paired) : s.lock.Paired := by
  unfold Handler.lock
  split
  · exact h
  · exact h.congr rfl rfl
  next hidle hinit => exact h.congr rfl (s.boosting_iff.mpr ⟨hidle, hinit⟩).symm

/-- `Exit` keeps the boost paired exactly when there is none. -/
theorem Handler.Paired.exit_iff {s : Handler} (h : s.Paired) :
    s.exit.Paired ↔ s.boosting = false := by
  unfold Handler.exit
  split
  next hstate => exact iff_of_true h (s.boosting_eq_false_iff.mpr (.inr hstate))
  · constructor
    · intro hexit
      have hcalls : PowerHal.outstanding .interaction s.hintCalls = true ↔ false = true :=
        hexit.outstanding
      rw [h.outstanding] at hcalls
      exact Bool.eq_false_iff.mpr fun hboost => absurd (hcalls.mp hboost) Bool.false_ne_true
    · intro hboost
      exact h.congr rfl hboost.symm

/-- `Exit` is called only while the handler is idle or not initialized. -/
def Handler.exitsIdle (s : Handler) (e : HandlerEvent) : Bool :=
  s.terminated || e != .exit || s.mState == .idle || s.mState == .uninitialized

/-- Exactly the steps that do not exit from a boost keep it paired. -/
theorem Handler.Paired.step_iff {s : Handler} (h : s.Paired) (e : HandlerEvent) :
    (s.step e).Paired ↔ s.exitsIdle e = true := by
  have hboosting : s.boosting = false ↔ (s.mState == .idle || s.mState == .uninitialized) = true := by
    simpa using s.boosting_eq_false_iff
  constructor
  · intro hstep
    unfold Handler.exitsIdle
    by_cases hexits : e = .exit ∧ s.terminated = false
    · obtain ⟨rfl, hrunning⟩ := hexits
      have hexit : s.exit.Paired := by simpa [Handler.step, hrunning] using hstep
      simpa [hrunning] using hboosting.mp (h.exit_iff.mp hexit)
    · cases hterminated : s.terminated <;> simp_all
  · intro hidle
    refine Handler.step_rule Handler.Paired e h h.init (fun duration now _ => h.acquire duration now) ?_
      (fun _ => h.congr rfl rfl) (h.congr rfl rfl) (fun _ => h.lock) (h.congr rfl rfl)
      (fun _ => h.congr rfl rfl) (fun _ => h.congr rfl rfl) (fun _ => h.release)
    rintro rfl hrunning
    exact h.exit_iff.mpr (hboosting.mpr (by simpa [exitsIdle, hrunning] using hidle))

/-- The interaction boost is not leaked, in every state of a run, exactly when `Exit` is never
called while the boost is held: the hint is outstanding exactly in the states `INTERACTION` and
`WAITING`, hence not after `Exit`, and its calls alternate. -/
theorem Handler.boost_not_leaked_iff (events : List HandlerEvent) :
    (∀ first, first <+: events →
      let s := run Handler.step .constructed first
      (outstanding .interaction s.hintCalls = true ↔
          s.mState = .interaction ∨ s.mState = .waiting) ∧
        (s.mState = .uninitialized → outstanding .interaction s.hintCalls = false) ∧
        s.hintCalls = alternation s.hintCalls.length) ↔
      StepsMeet Handler.step (fun s e => s.exitsIdle e = true) .constructed events := by
  have hpaired (s : Handler) :
      ((outstanding .interaction s.hintCalls = true ↔ s.mState = .interaction ∨ s.mState = .waiting) ∧
        (s.mState = .uninitialized → outstanding .interaction s.hintCalls = false) ∧
        s.hintCalls = alternation s.hintCalls.length) ↔ s.Paired := by
    have hboosting : s.boosting = true ↔ s.mState = .interaction ∨ s.mState = .waiting := by
      simp [boosting]
    constructor
    · rintro ⟨houtstanding, -, halternating⟩
      exact ⟨houtstanding.trans hboosting.symm, halternating⟩
    · intro h
      refine ⟨h.outstanding.trans hboosting, fun hstate => ?_, h.alternating⟩
      exact Bool.eq_false_iff.mpr fun hout => absurd hstate (s.boosting_iff.mp (h.outstanding.mp hout)).2
  simp only [hpaired]
  have hconstructed : Handler.constructed.Paired := ⟨by decide, rfl⟩
  exact (stepsMeet_iff_invariant Handler.Paired (fun s e h => h.step_iff e) _ events
    hconstructed).symm

/-- An `Exit` during the wait returns with the hint outstanding. -/
theorem Handler.boost_leaked_by_exit :
    let s := run Handler.step .constructed [.init true true, .acquire 0 ⟨0, 0⟩, .lock, .waitForIdle,
      .exit, .poll .aborted, .release, .lock, .join, .close]
    s.mState = .uninitialized ∧ s.worker = .absent ∧ s.closing = 0 ∧
      outstanding .interaction s.hintCalls = true := by
  decide +kernel

end Yoshino.PowerHal
