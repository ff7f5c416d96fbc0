import Yoshino.PowerHal.Modes

/-!
# Switching off an untimed client hint

`VIDEO_ENCODE` and `EXPENSIVE_RENDERING` stay on until a client cancels them. Both branches
first test the mode flags and drop the request, an off request included, while VR mode or
sustained performance is on. An off request therefore ends the hint exactly when it is not
dropped, and a dropped one leaves a running hint running after the mode has ended.
-/

namespace Yoshino.PowerHal

open Yoshino.Library

/-- The client hints that stay on until they are cancelled and are gated by the modes. -/
inductive UntimedHint
  | videoEncode
  | expensiveRendering
  deriving DecidableEq, Repr

/-- The hint as clients name it. -/
def UntimedHint.request : UntimedHint → PowerHint13
  | .videoEncode => videoEncodeHint
  | .expensiveRendering => .expensiveRendering

/-- The hint as the hint manager knows it. -/
def UntimedHint.hint : UntimedHint → Hint
  | .videoEncode => .videoEncode
  | .expensiveRendering => .expensiveRendering

/-- The mode branches touch neither untimed hint. -/
private theorem outstanding_modes (p : Power) (data : Int32) (h : UntimedHint) :
    outstanding h.hint (p.sustainedPerformance data).calls = outstanding h.hint p.calls ∧
      outstanding h.hint (p.vrMode data).calls = outstanding h.hint p.calls := by
  have hswitch {own other : Hint} {on otherOn request : Bool} (hown : own ≠ h.hint)
      (hother : other ≠ h.hint) :
      outstanding h.hint (run Power.record p (switchCalls own other on otherOn request)).calls =
        outstanding h.hint p.calls := by
    refine p.outstanding_run_record _ _ fun c hc heq => ?_
    rcases hint_of_mem_switchCalls hc with hc | hc | hc
    · exact hown (hc.symm.trans heq)
    · exact hother (hc.symm.trans heq)
    · cases h <;> simp [UntimedHint.hint, hc] at heq
  constructor
  · rw [p.sustainedPerformance_eq]
    exact hswitch (by cases h <;> decide) (by cases h <;> decide)
  · rw [p.vrMode_eq]
    exact hswitch (by cases h <;> decide) (by cases h <;> decide)

/-- Only an event that names an untimed hint can start or end it. -/
theorem Power.outstanding_step_of_not_named (p : Power) (e : Event) (h : UntimedHint)
    (hnot : e.dataFor h.request = none) :
    outstanding h.hint (p.step e).calls = outstanding h.hint p.calls := by
  have heffect := p.step_effect e
  generalize p.step e = q at heffect ⊢
  cases heffect with
  | videoEncode data hdata =>
    cases h with
    | videoEncode => simp [UntimedHint.request, hdata] at hnot
    | expensiveRendering =>
      unfold videoEncode
      repeat' split
      all_goals simp [outstanding, UntimedHint.hint]
  | sustainedPerformance data => exact (outstanding_modes p data h).1
  | vrMode data => exact (outstanding_modes p data h).2
  | quiet acquired => rfl
  | call c hhint hc hplain =>
    apply outstanding_cons_of_ne
    intro heq
    cases h with
    | videoEncode => simp [heq, UntimedHint.hint, Hint.plain] at hc
    | expensiveRendering =>
      rw [heq] at hhint
      cases e with
      | request r =>
        have hr : r.hint ≠ .expensiveRendering := by
          intro hr
          simp [Event.dataFor, UntimedHint.request, hr] at hnot
        rcases hhintOf : r.hint with (hint | _ | _ | _ | _ | _) | _
        · cases hint <;> simp [Event.plainHint, hhintOf, UntimedHint.hint] at hhint
        all_goals simp_all [Event.plainHint, UntimedHint.hint]
      | timeout k =>
        cases k <;> simp [Event.plainHint, Hint.timed, UntimedHint.hint] at hhint
      | perfLock | perfRel => simp [Event.plainHint, UntimedHint.hint] at hhint

/-- An off request ends the hint unless a mode makes the service ignore it. -/
theorem Power.outstanding_step_off (p : Power) (hready : p.mReady = true) (e : Event)
    (h : UntimedHint) (hoff : e.dataFor h.request = some 0) :
    outstanding h.hint (p.step e).calls = (p.ignoring && outstanding h.hint p.calls) := by
  cases e with
  | request r =>
    have hr : r.hint = h.request := by
      by_contra hr
      simp [Event.dataFor, hr] at hoff
    have hdata : r.data = 0 := by simpa [Event.dataFor, hr] using hoff
    change outstanding h.hint (p.serve r).calls = _
    rw [serve_eq, hr, hdata]
    cases h with
    | videoEncode =>
      rw [UntimedHint.request, powerHintAsync_1_3_v12, powerHintAsync_1_2_v10]
      cases hig : p.ignoring <;>
        simp [powerHint, hready, videoEncode, hig, outstanding, UntimedHint.hint]
    | expensiveRendering =>
      cases hig : p.ignoring <;>
        simp [powerHintAsync_1_3, UntimedHint.request, hready, hig, outstanding, UntimedHint.hint]
  | timeout k => simp [Event.dataFor] at hoff
  | perfLock | perfRel => simp [Event.dataFor] at hoff

/-- A run that never names the hint leaves it as it was. -/
theorem Power.outstanding_run_of_not_named (p : Power) (events : List Event) (h : UntimedHint)
    (hnot : ∀ e ∈ events, e.dataFor h.request = none) :
    outstanding h.hint (run step p events).calls = outstanding h.hint p.calls := by
  induction events generalizing p with
  | nil => rfl
  | cons e rest ih =>
    rw [run_cons, ih (p.step e) fun e' he' => hnot e' (List.mem_cons_of_mem _ he'),
      p.outstanding_step_of_not_named e h (hnot e List.mem_cons_self)]

/-- A hint whose last request was an off request is off exactly when that request came while no
mode was on, or found the hint already off. -/
theorem Power.switched_off_iff (h : UntimedHint) (props : Properties) (before after : List Event)
    (off : Event) (hoff : off.dataFor h.request = some 0)
    (hafter : ∀ e ∈ after, e.dataFor h.request = none) :
    outstanding h.hint (run step (started props) (before ++ off :: after)).calls = false ↔
      (run step (started props) before).ignoring = false ∨
        outstanding h.hint (run step (started props) before).calls = false := by
  have hready : (run step (started props) before).mReady = true :=
    run_observation (fun q : Power => q.mReady) step_mReady _ before
  rw [run_append, run_cons, outstanding_run_of_not_named _ after h hafter,
    outstanding_step_off _ hready off h hoff, Bool.and_eq_false_iff]

/-- A request for the hint through the 1.0 entry point. -/
private def ask (hint : PowerHint10) (data : Int32) : Event := .request (.powerHint hint data)

/-- Video encoding is switched off during VR mode and stays outstanding after VR mode has ended. -/
theorem Power.video_encode_survives_its_off_request :
    let events := [ask .videoEncode 1, ask .vrMode 1, ask .videoEncode 0, ask .vrMode 0]
    lastData videoEncodeHint events = some 0 ∧
      outstanding .videoEncode (run step (started ⟨"", "", ""⟩) events).calls = true := by
  decide

/-- The condition at a request that is not dropped: the hint is off although VR mode follows. -/
theorem Power.switched_off_before_vr :
    outstanding .videoEncode (run step (started ⟨"", "", ""⟩)
      ([ask .videoEncode 1] ++ ask .videoEncode 0 :: [ask .vrMode 1])).calls = false :=
  (switched_off_iff .videoEncode ⟨"", "", ""⟩ [ask .videoEncode 1] [ask .vrMode 1]
    (ask .videoEncode 0) rfl (by decide)).mpr (Or.inl (by decide))

end Yoshino.PowerHal
