import Mathlib.Data.List.Induction
import Yoshino.PowerHal.Steps

/-!
# The performance modes and their hints

The two mode flags select one of four combinations, and each combination has its own hint.
The mode branches end the hint of the old combination before they start that of the new
one, so at every moment exactly the hint of the present combination is outstanding. No
other branch touches the three hints, and no other branch writes the flags.
-/

namespace Yoshino.PowerHal

open Yoshino.Library

/-- Exactly the mode hint that the two flags call for is outstanding. -/
structure Power.ModesInStep (p : Power) : Prop where
  vr : outstanding .vrMode p.calls = (p.mVRModeOn && !p.mSustainedPerfModeOn)
  sustained : outstanding .sustainedPerformance p.calls = (!p.mVRModeOn && p.mSustainedPerfModeOn)
  both : outstanding .vrSustainedPerformance p.calls = (p.mVRModeOn && p.mSustainedPerfModeOn)

/-- Calls about plain hints keep the modes in step. -/
theorem Power.ModesInStep.record {p : Power} (h : p.ModesInStep) (c : HintCall)
    (hc : c.hint.plain = true) : (p.record c).ModesInStep := by
  have hne (k : Hint) (hk : k.plain = false) : c.hint ≠ k := fun heq => by simp [heq, hk] at hc
  constructor
  · exact (outstanding_cons_of_ne _ c _ (hne _ rfl)).trans h.vr
  · exact (outstanding_cons_of_ne _ c _ (hne _ rfl)).trans h.sustained
  · exact (outstanding_cons_of_ne _ c _ (hne _ rfl)).trans h.both

/-- What a mode branch tells the hint manager, in this order: the mode starts alone or joins the
other one, it ends alone or leaves the other one, or it is as requested already. -/
def switchCalls (own other : Hint) (on otherOn request : Bool) : List HintCall :=
  match on, request, otherOn with
  | false, true, false => [.doHint own]
  | false, true, true => [.endHint other, .doHint .vrSustainedPerformance]
  | true, false, false => [.endHint .vrSustainedPerformance, .endHint own]
  | true, false, true => [.endHint .vrSustainedPerformance, .endHint own, .doHint other]
  | false, false, _ | true, true, _ => []

/-- A branch that tells the hint manager nothing leaves its flag alone, any other one turns it. -/
theorem switchCalls_eq_nil_or (own other : Hint) (on otherOn request : Bool) :
    switchCalls own other on otherOn request = [] ∨ request ≠ on := by
  by_cases h : request = on
  · subst h
    cases request <;> exact .inl rfl
  · exact .inr h

/-- A switch is about the hints of the modes only. -/
theorem hint_of_mem_switchCalls {own other : Hint} {on otherOn request : Bool} {c : HintCall}
    (h : c ∈ switchCalls own other on otherOn request) :
    c.hint = own ∨ c.hint = other ∨ c.hint = .vrSustainedPerformance := by
  unfold switchCalls at h
  split at h <;> grind [HintCall.hint]

/-- The sustained-performance branch passes the calls of a switch and sets its flag. -/
theorem Power.sustainedPerformance_eq (p : Power) (data : Int32) :
    p.sustainedPerformance data =
      { run record p (switchCalls .sustainedPerformance .vrMode p.mSustainedPerfModeOn p.mVRModeOn
          (decide (data ≠ 0))) with
        mSustainedPerfModeOn := decide (data ≠ 0) } := by
  unfold sustainedPerformance
  by_cases hd : data = 0
  · cases hm : p.mSustainedPerfModeOn with
    | false =>
      have hsame : { p with mSustainedPerfModeOn := false } = p := by rw [← hm]
      simp [hd, switchCalls, hsame]
    | true => cases hv : p.mVRModeOn <;> simp [hd, switchCalls, endHint, doHint]
  · cases hm : p.mSustainedPerfModeOn with
    | false => cases hv : p.mVRModeOn <;> simp [hd, switchCalls, endHint, doHint]
    | true =>
      have hsame : { p with mSustainedPerfModeOn := true } = p := by rw [← hm]
      simp [hd, switchCalls, hsame]

/-- The VR-mode branch passes the calls of a switch and sets its flag. -/
theorem Power.vrMode_eq (p : Power) (data : Int32) :
    p.vrMode data =
      { run record p (switchCalls .vrMode .sustainedPerformance p.mVRModeOn p.mSustainedPerfModeOn
          (decide (data ≠ 0))) with
        mVRModeOn := decide (data ≠ 0) } := by
  unfold vrMode
  by_cases hd : data = 0
  · cases hv : p.mVRModeOn with
    | false =>
      have hsame : { p with mVRModeOn := false } = p := by rw [← hv]
      simp [hd, switchCalls, hsame]
    | true => cases hm : p.mSustainedPerfModeOn <;> simp [hd, switchCalls, endHint, doHint]
  · cases hv : p.mVRModeOn with
    | false => cases hm : p.mSustainedPerfModeOn <;> simp [hd, switchCalls, endHint, doHint]
    | true =>
      have hsame : { p with mVRModeOn := true } = p := by rw [← hv]
      simp [hd, switchCalls, hsame]

/-- The hint manager keeps the calls, the newest first. -/
theorem Power.run_record_calls (p : Power) (calls : List HintCall) :
    (run record p calls).calls = calls.reverse ++ p.calls := by
  induction calls generalizing p with
  | nil => rfl
  | cons c rest ih =>
    rw [run_cons, ih, record_calls, List.reverse_cons, List.append_assoc, List.singleton_append]

/-- Calls about other hints leave a hint as it was. -/
theorem Power.outstanding_run_record (p : Power) (h : Hint) (calls : List HintCall)
    (hne : ∀ c ∈ calls, c.hint ≠ h) :
    outstanding h (run record p calls).calls = outstanding h p.calls := by
  induction calls generalizing p with
  | nil => rfl
  | cons c rest ih =>
    rw [run_cons, ih _ fun c' hc' => hne c' (List.mem_cons_of_mem _ hc'), record_calls,
      outstanding_cons_of_ne _ _ _ (hne c List.mem_cons_self)]

/-- Calls to the hint manager leave the flags alone. -/
theorem Power.run_record_flags (p : Power) (calls : List HintCall) :
    (run record p calls).mVRModeOn = p.mVRModeOn ∧
      (run record p calls).mSustainedPerfModeOn = p.mSustainedPerfModeOn ∧
      (run record p calls).mEncoderModeOn = p.mEncoderModeOn := by
  have hvr (q : Power) (c : HintCall) : (q.record c).mVRModeOn = q.mVRModeOn := rfl
  have hsustained (q : Power) (c : HintCall) :
      (q.record c).mSustainedPerfModeOn = q.mSustainedPerfModeOn := rfl
  have hencoder (q : Power) (c : HintCall) : (q.record c).mEncoderModeOn = q.mEncoderModeOn := rfl
  exact ⟨run_observation _ hvr p calls, run_observation _ hsustained p calls,
    run_observation _ hencoder p calls⟩

/-- Switching sustained performance sets its flag to the data's truth and no other flag. -/
theorem Power.sustainedPerformance_flags (p : Power) (data : Int32) :
    (p.sustainedPerformance data).mVRModeOn = p.mVRModeOn ∧
      (p.sustainedPerformance data).mSustainedPerfModeOn = decide (data ≠ 0) ∧
      (p.sustainedPerformance data).mEncoderModeOn = p.mEncoderModeOn := by
  rw [sustainedPerformance_eq]
  exact ⟨(p.run_record_flags _).1, rfl, (p.run_record_flags _).2.2⟩

/-- Switching VR mode sets its flag to the data's truth and no other flag. -/
theorem Power.vrMode_flags (p : Power) (data : Int32) :
    (p.vrMode data).mVRModeOn = decide (data ≠ 0) ∧
      (p.vrMode data).mSustainedPerfModeOn = p.mSustainedPerfModeOn ∧
      (p.vrMode data).mEncoderModeOn = p.mEncoderModeOn := by
  rw [vrMode_eq]
  exact ⟨rfl, (p.run_record_flags _).2⟩

/-- Of a mode, the other one and both together, exactly the hint of the present combination is
outstanding. -/
structure InStep (own other : Hint) (on otherOn : Bool) (calls : List HintCall) : Prop where
  own : outstanding own calls = (on && !otherOn)
  other : outstanding other calls = (otherOn && !on)
  both : outstanding .vrSustainedPerformance calls = (on && otherOn)

/-- A switch moves from one combination to the next. -/
theorem InStep.switch {own other : Hint} (hne : own ≠ other)
    (hown : own ≠ .vrSustainedPerformance) (hother : other ≠ .vrSustainedPerformance)
    {on otherOn : Bool} {calls : List HintCall} (h : InStep own other on otherOn calls)
    (request : Bool) : InStep own other request otherOn
      ((switchCalls own other on otherOn request).reverse ++ calls) := by
  obtain ⟨hfirst, hsecond, hboth⟩ := h
  cases on with
  | false =>
    cases request with
    | false => exact ⟨hfirst, hsecond, hboth⟩
    | true =>
      cases otherOn with
      | false =>
        -- the mode starts alone
        constructor <;> simp [switchCalls, outstanding, hne, hown, hsecond, hboth]
      | true =>
        -- the mode joins the other one
        constructor <;> simp [switchCalls, outstanding, hne.symm, hown.symm, hother.symm, hfirst]
  | true =>
    cases request with
    | true => exact ⟨hfirst, hsecond, hboth⟩
    | false =>
      cases otherOn with
      | false =>
        -- the mode ends alone
        constructor <;> simp [switchCalls, outstanding, hne, hown, hother.symm, hsecond]
      | true =>
        -- the mode leaves the other one
        constructor <;> simp [switchCalls, outstanding, hne.symm, hown, hother]

/-- Switching sustained performance moves between the combinations. -/
theorem Power.ModesInStep.sustainedPerformance {p : Power} (h : p.ModesInStep) (data : Int32) :
    (p.sustainedPerformance data).ModesInStep := by
  have hnow : InStep .sustainedPerformance .vrMode p.mSustainedPerfModeOn p.mVRModeOn p.calls :=
    ⟨h.sustained.trans (Bool.and_comm ..), h.vr, h.both.trans (Bool.and_comm ..)⟩
  have hnext := hnow.switch (by decide) (by decide) (by decide) (decide (data ≠ 0))
  obtain ⟨hvr, hsustained, -⟩ := p.sustainedPerformance_flags data
  have hcalls := congrArg Power.calls (p.sustainedPerformance_eq data)
  rw [← run_record_calls, ← hcalls, ← hvr, ← hsustained] at hnext
  exact ⟨hnext.other, hnext.own.trans (Bool.and_comm ..), hnext.both.trans (Bool.and_comm ..)⟩

/-- Switching VR mode moves between the combinations. -/
theorem Power.ModesInStep.vrMode {p : Power} (h : p.ModesInStep) (data : Int32) :
    (p.vrMode data).ModesInStep := by
  have hnow : InStep .vrMode .sustainedPerformance p.mVRModeOn p.mSustainedPerfModeOn p.calls :=
    ⟨h.vr, h.sustained.trans (Bool.and_comm ..), h.both⟩
  have hnext := hnow.switch (by decide) (by decide) (by decide) (decide (data ≠ 0))
  obtain ⟨hvr, hsustained, -⟩ := p.vrMode_flags data
  have hcalls := congrArg Power.calls (p.vrMode_eq data)
  rw [← run_record_calls, ← hcalls, ← hvr, ← hsustained] at hnext
  exact ⟨hnext.own, hnext.other.trans (Bool.and_comm ..), hnext.both⟩

/-- Switching video encoding keeps the modes in step. -/
theorem Power.ModesInStep.videoEncode {p : Power} (h : p.ModesInStep) (data : Int32) :
    (p.videoEncode data).ModesInStep := by
  unfold Power.videoEncode
  split
  · exact h
  · split <;> constructor <;>
      simp [Power.doHint, Power.endHint, Power.record, Power.setStateProperty, outstanding,
        h.vr, h.sustained, h.both]

/-- One event keeps the modes in step. -/
theorem Power.ModesInStep.step {p : Power} (h : p.ModesInStep) (e : Event) :
    (p.step e).ModesInStep := by
  have heffect := p.step_effect e
  generalize p.step e = q at heffect ⊢
  cases heffect with
  | videoEncode data => exact h.videoEncode data
  | sustainedPerformance data => exact h.sustainedPerformance data
  | vrMode data => exact h.vrMode data
  | quiet acquired => exact ⟨h.vr, h.sustained, h.both⟩
  | call c hhint hc => exact h.record c hc

/-- Restoring the audio and rendering hints keeps the modes in step. -/
private theorem modesInStep_restoreOthers {p : Power} (h : p.ModesInStep) :
    p.restoreAudio.restoreRendering.ModesInStep := by
  have haudio : p.restoreAudio.ModesInStep := by
    unfold Power.restoreAudio
    split
    · exact h.record (.doHint .audioLowLatency) rfl
    · exact h
  unfold Power.restoreRendering
  split
  · exact haudio.record (.doHint .expensiveRendering) rfl
  · exact haudio

/-- The initialisation restores a combination together with its hint. -/
theorem Power.started_modesInStep (props : Properties) : (Power.started props).ModesInStep := by
  have hstate : (Power.construct props).restoreState.ModesInStep := by
    unfold Power.restoreState
    repeat' split
    all_goals constructor <;>
      simp [Power.construct, Power.doHint, Power.record, outstanding]
  obtain ⟨hvr, hs, hb⟩ := modesInStep_restoreOthers hstate
  exact ⟨hvr, hs, hb⟩

/-- The flags the initialisation restores from `vendor.powerhal.state`. -/
theorem Power.started_flags (props : Properties) :
    (Power.started props).mVRModeOn =
        decide (props.state = "VR_MODE" ∨ props.state = "VR_SUSTAINED_PERFORMANCE") ∧
      (Power.started props).mSustainedPerfModeOn =
        decide (props.state = "SUSTAINED_PERFORMANCE" ∨ props.state = "VR_SUSTAINED_PERFORMANCE") ∧
      (Power.started props).mEncoderModeOn = decide (props.state = "VIDEO_ENCODE") := by
  have hothers (p : Power) : p.restoreAudio.restoreRendering.mVRModeOn = p.mVRModeOn ∧
      p.restoreAudio.restoreRendering.mSustainedPerfModeOn = p.mSustainedPerfModeOn ∧
      p.restoreAudio.restoreRendering.mEncoderModeOn = p.mEncoderModeOn := by
    unfold Power.restoreRendering Power.restoreAudio
    repeat' split
    all_goals exact ⟨rfl, rfl, rfl⟩
  obtain ⟨hv, hs, he⟩ := hothers (Power.construct props).restoreState
  change (Power.construct props).restoreState.restoreAudio.restoreRendering.mVRModeOn = _ ∧
    (Power.construct props).restoreState.restoreAudio.restoreRendering.mSustainedPerfModeOn = _ ∧
    (Power.construct props).restoreState.restoreAudio.restoreRendering.mEncoderModeOn = _
  rw [hv, hs, he]
  have hproperty : (Power.construct props).main.property = props.state := rfl
  unfold Power.restoreState
  rw [hproperty]
  by_cases hencode : props.state = "VIDEO_ENCODE"
  · simp [hencode, Power.doHint, Power.record, Power.construct]
  by_cases hsustained : props.state = "SUSTAINED_PERFORMANCE"
  · simp [hsustained, Power.doHint, Power.record, Power.construct]
  by_cases hvr : props.state = "VR_MODE"
  · simp [hvr, Power.doHint, Power.record, Power.construct]
  by_cases hboth : props.state = "VR_SUSTAINED_PERFORMANCE"
  · simp [hboth, Power.doHint, Power.record, Power.construct]
  · simp [hencode, hsustained, hvr, hboth, Power.construct]

/-- The data of the last request naming the hint. -/
def lastData (hint : PowerHint13) (events : List Event) : Option Int32 :=
  (events.filterMap fun e => e.dataFor hint).getLast?

/-- A later request for the hint replaces the remembered data. -/
theorem lastData_concat (hint : PowerHint13) (events : List Event) (e : Event) :
    lastData hint (events ++ [e]) = (e.dataFor hint).or (lastData hint events) := by
  unfold lastData
  rw [List.filterMap_append]
  cases h : e.dataFor hint <;> simp [h]

/-- A flag as the last request leaves it, or as it was restored. -/
def flagAfter (last : Option Int32) (restored : Bool) : Bool :=
  (last.map fun data => decide (data ≠ 0)).getD restored

/-- Switching video encoding leaves the mode flags alone. -/
theorem Power.videoEncode_modeFlags (p : Power) (data : Int32) :
    (p.videoEncode data).mVRModeOn = p.mVRModeOn ∧
      (p.videoEncode data).mSustainedPerfModeOn = p.mSustainedPerfModeOn := by
  unfold videoEncode
  repeat' split
  all_goals exact ⟨rfl, rfl⟩

/-- Two different client hints are not named by one event. -/
theorem Event.dataFor_eq_none_of_ne (e : Event) (named other : PowerHint13) (data : Int32)
    (h : e.dataFor named = some data) (hne : named ≠ other) : e.dataFor other = none := by
  cases e with
  | request r =>
    have hr : r.hint = named := by
      by_contra hr
      simp [dataFor, hr] at h
    simp [dataFor, hr, hne]
  | timeout k => rfl
  | perfLock | perfRel => rfl

/-- Each mode flag takes the truth of the data it is sent; nothing else writes it. -/
theorem Power.step_modeFlags (p : Power) (hready : p.mReady = true) (e : Event) :
    (p.step e).mVRModeOn = flagAfter (e.dataFor vrModeHint) p.mVRModeOn ∧
      (p.step e).mSustainedPerfModeOn =
        flagAfter (e.dataFor sustainedPerformanceHint) p.mSustainedPerfModeOn := by
  have heffect := p.step_effect e
  generalize p.step e = q at heffect ⊢
  cases heffect with
  | videoEncode data hdata =>
    rw [e.dataFor_eq_none_of_ne _ vrModeHint data hdata (by decide),
      e.dataFor_eq_none_of_ne _ sustainedPerformanceHint data hdata (by decide)]
    exact p.videoEncode_modeFlags data
  | sustainedPerformance data hdata =>
    rw [e.dataFor_eq_none_of_ne _ vrModeHint data hdata (by decide), hdata]
    exact ⟨(p.sustainedPerformance_flags data).1, (p.sustainedPerformance_flags data).2.1⟩
  | vrMode data hdata =>
    rw [e.dataFor_eq_none_of_ne _ sustainedPerformanceHint data hdata (by decide), hdata]
    exact ⟨(p.vrMode_flags data).1, (p.vrMode_flags data).2.1⟩
  | quiet acquired hplain =>
    obtain ⟨-, hs, hv⟩ := hplain hready
    rw [hv, hs]
    exact ⟨rfl, rfl⟩
  | call c hhint hc hplain =>
    obtain ⟨-, hs, hv⟩ := hplain
    rw [hv, hs]
    exact ⟨rfl, rfl⟩

/-- Before the initialisation thread has finished, requests are dropped. -/
theorem Power.serve_of_not_ready (p : Power) (h : p.mReady = false) (r : Request) :
    p.serve r = p := by
  rw [serve_eq]
  simp [powerHintAsync_1_3, h]

/-- Once the service takes hints, it keeps taking them. -/
theorem Power.step_mReady (p : Power) (e : Event) : (p.step e).mReady = p.mReady := by
  have heffect := p.step_effect e
  generalize p.step e = q at heffect ⊢
  cases heffect with
  | videoEncode data =>
    unfold videoEncode
    repeat' split
    all_goals rfl
  | sustainedPerformance data =>
    unfold sustainedPerformance
    repeat' split
    all_goals rfl
  | vrMode data =>
    unfold vrMode
    repeat' split
    all_goals rfl
  | quiet acquired => rfl
  | call c => rfl

/-- The mode flags after a run of the ready service are those of the last requests. -/
theorem Power.run_modeFlags (p : Power) (hready : p.mReady = true) (events : List Event) :
    (run step p events).mVRModeOn = flagAfter (lastData vrModeHint events) p.mVRModeOn ∧
      (run step p events).mSustainedPerfModeOn =
        flagAfter (lastData sustainedPerformanceHint events) p.mSustainedPerfModeOn := by
  induction events using List.reverseRecOn with
  | nil => exact ⟨rfl, rfl⟩
  | append_singleton events e ih =>
    have hrun : (run step p events).mReady = true :=
      (run_observation (fun q : Power => q.mReady) step_mReady p events).trans hready
    obtain ⟨hv, hs⟩ := (run step p events).step_modeFlags hrun e
    rw [run_concat, hv, hs, ih.1, ih.2, lastData_concat, lastData_concat]
    constructor
    · cases e.dataFor vrModeHint <;> rfl
    · cases e.dataFor sustainedPerformanceHint <;> rfl

/-- The performance-mode invariant, from the constructor on: requests that arrive before the
initialisation has finished are dropped, and after any further events exactly the hint of the
present mode combination is outstanding, with each flag as its last request or its restored
value has it. -/
theorem Power.modes_follow_last_requests (props : Properties) (early : List Request)
    (events : List Event) :
    let p := run step (run serve (construct props) early).initialise events
    p.ModesInStep ∧
      p.mVRModeOn = flagAfter (lastData vrModeHint events)
        (decide (props.state = "VR_MODE" ∨ props.state = "VR_SUSTAINED_PERFORMANCE")) ∧
      p.mSustainedPerfModeOn = flagAfter (lastData sustainedPerformanceHint events)
        (decide (props.state = "SUSTAINED_PERFORMANCE" ∨ props.state = "VR_SUSTAINED_PERFORMANCE")) := by
  intro p
  have hearly : run serve (construct props) early = construct props :=
    run_invariant_of_step (fun q => q = construct props)
      (fun q r hq => by rw [hq]; exact serve_of_not_ready _ rfl r) _ early rfl
  have hp : p = run step (started props) events := by
    simp only [p, hearly, started]
  obtain ⟨hv, hs, -⟩ := started_flags props
  obtain ⟨hvr, hsustained⟩ := (started props).run_modeFlags rfl events
  rw [hp]
  refine ⟨?_, hvr.trans (by rw [hv]), hsustained.trans (by rw [hs])⟩
  exact run_invariant_of_step ModesInStep (fun q e hq => hq.step e) _ events (started_modesInStep props)

end Yoshino.PowerHal
