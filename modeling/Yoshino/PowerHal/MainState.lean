import Yoshino.PowerHal.Modes

/-!
# The main-state property during a run

`vendor.powerhal.state` has two writers. The `PowerHALMainState` node writes it whenever the
value its outstanding actions request changes, and the video-encode branch writes it
directly. The node is unaware of the direct writes: it does not repeat a value it already
holds. What the property shows is therefore decided by which of the two wrote last.
-/

namespace Yoshino.PowerHal

open Yoshino.Library

/-- The value the outstanding hints request of the main-state node. -/
def Power.mainValue (p : Power) : String := powerHALMainState.value p.calls

/-- Calls about hints without an action on the main state leave its value alone. -/
theorem powerHALMainState_value_cons (c : HintCall) (calls : List HintCall)
    (hvr : c.hint ≠ .vrMode) (hs : c.hint ≠ .sustainedPerformance)
    (hb : c.hint ≠ .vrSustainedPerformance) (hc : c.hint ≠ .cameraStreaming) :
    powerHALMainState.value (c :: calls) = powerHALMainState.value calls := by
  have hrequested : powerHALMainState.requested (c :: calls) = powerHALMainState.requested calls := by
    funext value
    simp [PropertyNode.requested, powerHALMainState, outstanding_cons_of_ne _ c calls hvr,
      outstanding_cons_of_ne _ c calls hs, outstanding_cons_of_ne _ c calls hb,
      outstanding_cons_of_ne _ c calls hc]
  unfold PropertyNode.value
  rw [hrequested]

/-- The node itself never shows the marker of an encoding request. -/
theorem Power.mainValue_ne_videoEncode (p : Power) : p.mainValue ≠ "VIDEO_ENCODE" := by
  unfold mainValue
  cases hcamera : outstanding .cameraStreaming p.calls with
  | true => simp [powerHALMainState_value_of_camera _ hcamera]
  | false =>
    rw [powerHALMainState_value_of_no_camera _ hcamera]
    repeat' split
    all_goals decide

/-- The node holds what the outstanding hints request. -/
def Power.Settled (p : Power) : Prop := p.main.held = p.mainValue

/-- A single call lets the node hold the newly requested value. -/
theorem Power.record_main (p : Power) (c : HintCall) :
    (p.record c).main = p.main.hold (p.record c).mainValue := rfl

/-- Calls leave the node settled. -/
theorem Power.Settled.run_record {p : Power} (h : p.Settled) (calls : List HintCall) :
    (run record p calls).Settled :=
  run_invariant_of_step Settled (fun q c _ => by rw [Settled, record_main, PropertyState.hold_held])
    p calls h

/-- Calls leave the node where it was, or the property shows what the node holds. -/
theorem Power.run_record_main (p : Power) (calls : List HintCall) :
    (run record p calls).main = p.main ∨
      (run record p calls).main.property = (run record p calls).main.held := by
  refine run_invariant_of_step (fun q => q.main = p.main ∨ q.main.property = q.main.held)
    (fun q c hq => ?_) p calls (.inl rfl)
  rw [record_main]
  by_cases hsame : (q.record c).mainValue = q.main.held
  · rw [q.main.hold_of_eq _ hsame]
    exact hq
  · rw [q.main.hold_of_ne _ hsame]
    exact .inr rfl

/-- Calls after which the node holds something else take it straight there. -/
theorem Power.Settled.main_of_ne {p : Power} (h : p.Settled) {calls : List HintCall}
    (hne : (run record p calls).mainValue ≠ p.main.held) :
    (run record p calls).main = p.main.hold (run record p calls).mainValue := by
  have hheld := h.run_record calls
  rcases p.run_record_main calls with hsame | hshown
  · rw [Settled, hsame] at hheld
    exact absurd hheld.symm hne
  · rw [p.main.hold_of_ne _ hne, ← hheld]
    calc (run record p calls).main
        = ⟨(run record p calls).main.held, (run record p calls).main.property⟩ := rfl
      _ = _ := by rw [hshown]

/-- Camera streaming outranks every mode, so the node does not move at all under it. -/
theorem Power.Settled.main_of_camera {p : Power} (h : p.Settled)
    (hcamera : outstanding .cameraStreaming p.calls = true) {calls : List HintCall}
    (hcalls : ∀ c ∈ calls, c.hint ≠ .cameraStreaming) :
    (run record p calls).main = p.main := by
  induction calls generalizing p with
  | nil => rfl
  | cons c rest ih =>
    have hstill : outstanding .cameraStreaming (p.record c).calls = true :=
      (outstanding_cons_of_ne _ c _ (hcalls c List.mem_cons_self)).trans hcamera
    have hvalue : (p.record c).mainValue = p.main.held := by
      rw [h, mainValue, mainValue, powerHALMainState_value_of_camera _ hstill,
        powerHALMainState_value_of_camera _ hcamera]
    have hnext : (p.record c).Settled := h.run_record [c]
    rw [run_cons, ih hnext hstill fun c' hc' => hcalls c' (List.mem_cons_of_mem _ hc'),
      record_main, p.main.hold_of_eq _ hvalue]

/-- What the node holds for the two modes without camera streaming. -/
def modeValue (vr sustained : Bool) : String :=
  if vr && sustained then "VR_SUSTAINED_PERFORMANCE"
  else if sustained then "SUSTAINED_PERFORMANCE"
  else if vr then "VR_MODE" else ""

/-- The four combinations have four values. -/
theorem modeValue_injective : ∀ vr sustained vr' sustained',
    modeValue vr sustained = modeValue vr' sustained' → vr = vr' ∧ sustained = sustained' := by
  decide

/-- With the modes in step the node holds the value of their combination. -/
theorem Power.ModesInStep.mainValue {p : Power} (h : p.ModesInStep)
    (hcamera : outstanding .cameraStreaming p.calls = false) :
    p.mainValue = modeValue p.mVRModeOn p.mSustainedPerfModeOn := by
  rw [Power.mainValue, powerHALMainState_value_of_no_camera _ hcamera, h.both, h.sustained, h.vr]
  cases p.mVRModeOn <;> cases p.mSustainedPerfModeOn <;> rfl

/-- A switch takes the node straight to its final value: under camera streaming it does not move,
and otherwise another combination has another value. -/
theorem Power.Settled.switch {p q : Power} (hsettled : p.Settled) (hp : p.ModesInStep)
    (hq : q.ModesInStep) {calls : List HintCall} (hcalls : ∀ c ∈ calls, c.hint ≠ .cameraStreaming)
    (hqcalls : q.calls = (run record p calls).calls)
    (hqmain : q.main = (run record p calls).main)
    (hturned : calls = [] ∨
      ¬ (q.mVRModeOn = p.mVRModeOn ∧ q.mSustainedPerfModeOn = p.mSustainedPerfModeOn)) :
    q.main = p.main.hold q.mainValue := by
  have hvalue : q.mainValue = (run record p calls).mainValue := by
    rw [Power.mainValue, Power.mainValue, hqcalls]
  have hsame := p.outstanding_run_record .cameraStreaming calls hcalls
  rcases hturned with rfl | hturned
  · rw [hqmain, hvalue]
    exact (p.main.hold_of_eq _ hsettled.symm).symm
  · rw [hqmain, hvalue]
    cases hcamera : outstanding .cameraStreaming p.calls with
    | true =>
      have hheld := hsettled.run_record calls
      rw [Settled, hsettled.main_of_camera hcamera hcalls] at hheld
      rw [hsettled.main_of_camera hcamera hcalls, p.main.hold_of_eq _ hheld.symm]
    | false =>
      apply hsettled.main_of_ne
      rw [← hvalue, hsettled, hq.mainValue (by rw [hqcalls, hsame, hcamera]), hp.mainValue hcamera]
      exact fun heq => hturned (modeValue_injective _ _ _ _ heq)

/-- Switching sustained performance takes the node straight to its final value. -/
theorem Power.sustainedPerformance_main (p : Power) (hmodes : p.ModesInStep) (hsettled : p.Settled)
    (data : Int32) :
    (p.sustainedPerformance data).main = p.main.hold (p.sustainedPerformance data).mainValue := by
  have heq := p.sustainedPerformance_eq data
  refine hsettled.switch hmodes (hmodes.sustainedPerformance data) (fun c hc hcamera => ?_)
    (congrArg Power.calls heq :) (congrArg Power.main heq :) ?_
  · simpa [hcamera] using hint_of_mem_switchCalls hc
  · rw [(p.sustainedPerformance_flags data).2.1]
    exact (switchCalls_eq_nil_or ..).imp_right fun hne h => hne h.2

/-- Switching VR mode takes the node straight to its final value. -/
theorem Power.vrMode_main (p : Power) (hmodes : p.ModesInStep) (hsettled : p.Settled)
    (data : Int32) : (p.vrMode data).main = p.main.hold (p.vrMode data).mainValue := by
  have heq := p.vrMode_eq data
  refine hsettled.switch hmodes (hmodes.vrMode data) (fun c hc hcamera => ?_)
    (congrArg Power.calls heq :) (congrArg Power.main heq :) ?_
  · simpa [hcamera] using hint_of_mem_switchCalls hc
  · rw [(p.vrMode_flags data).1]
    exact (switchCalls_eq_nil_or ..).imp_right fun hne h => hne h.1

/-- A video-encode request that is not ignored leaves the node alone and writes the property. -/
theorem Power.videoEncode_main (p : Power) (hsettled : p.Settled) (data : Int32)
    (hig : p.ignoring = false) :
    (p.videoEncode data).mainValue = p.mainValue ∧
      (p.videoEncode data).main = ⟨p.main.held, if data = 0 then "" else "VIDEO_ENCODE"⟩ ∧
      (p.videoEncode data).mEncoderModeOn = decide (data ≠ 0) := by
  have hvalue (c : HintCall) (hc : c.hint = .videoEncode) :
      powerHALMainState.value (c :: p.calls) = p.main.held := by
    rw [powerHALMainState_value_cons c p.calls (by simp [hc]) (by simp [hc]) (by simp [hc])
      (by simp [hc])]
    exact hsettled.symm
  have hdo := hvalue (.doHint .videoEncode) rfl
  have hend := hvalue (.endHint .videoEncode) rfl
  by_cases hd : data = 0
  · simp [videoEncode, hig, hd, endHint, record, setStateProperty, PropertyState.setProperty,
      mainValue, hend, PropertyState.hold_of_eq]
    exact hsettled
  · simp [videoEncode, hig, hd, doHint, record, setStateProperty, PropertyState.setProperty,
      mainValue, hdo, PropertyState.hold_of_eq]
    exact hsettled

/-- The event is a video-encode request that the service acts on. -/
def Power.Encodes (p : Power) (e : Event) (data : Int32) : Prop :=
  e.dataFor videoEncodeHint = some data ∧ p.ignoring = false

/-- Either the event is a video-encode request acted on, or the property follows the node. -/
theorem Power.step_main (p : Power) (hready : p.mReady = true) (hmodes : p.ModesInStep)
    (hsettled : p.Settled) (e : Event) :
    (∃ data, p.Encodes e data ∧ p.step e = p.videoEncode data) ∨
      (∀ data, ¬ p.Encodes e data) ∧ (p.step e).main = p.main.hold (p.step e).mainValue ∧
        (p.step e).mEncoderModeOn = p.mEncoderModeOn := by
  have hnot (other : PowerHint13) (data' : Int32) (h : e.dataFor other = some data')
      (hne : other ≠ videoEncodeHint) (data : Int32) : ¬ p.Encodes e data := by
    rintro ⟨hdata, -⟩
    simp [e.dataFor_eq_none_of_ne other videoEncodeHint data' h hne] at hdata
  have hplainNot (hplain : e.Plain) (data : Int32) : ¬ p.Encodes e data := by
    rintro ⟨hdata, -⟩
    simp [hplain.1] at hdata
  have heffect := p.step_effect e
  generalize p.step e = q at heffect ⊢
  cases heffect with
  | videoEncode data hdata =>
    cases hig : p.ignoring with
    | false => exact Or.inl ⟨data, ⟨hdata, hig⟩, rfl⟩
    | true =>
      refine Or.inr ⟨fun data' h => by simp [Encodes, hig] at h, ?_, ?_⟩
      · simp only [videoEncode, hig, if_true]
        exact (p.main.hold_of_eq _ hsettled.symm).symm
      · simp [videoEncode, hig]
  | sustainedPerformance data hdata =>
    exact Or.inr ⟨hnot _ data hdata (by decide), p.sustainedPerformance_main hmodes hsettled data,
      (p.sustainedPerformance_flags data).2.2⟩
  | vrMode data hdata =>
    exact Or.inr ⟨hnot _ data hdata (by decide), p.vrMode_main hmodes hsettled data,
      (p.vrMode_flags data).2.2⟩
  | quiet acquired hplain =>
    exact Or.inr ⟨hplainNot (hplain hready), (p.main.hold_of_eq _ hsettled.symm).symm, rfl⟩
  | call c hhint hc hplain => exact Or.inr ⟨hplainNot hplain, rfl, rfl⟩

/-- Every event leaves the node settled. -/
theorem Power.Settled.step {p : Power} (hready : p.mReady = true) (hmodes : p.ModesInStep)
    (hsettled : p.Settled) (e : Event) : (p.step e).Settled := by
  rcases p.step_main hready hmodes hsettled e with ⟨data, ⟨-, hig⟩, hstep⟩ | ⟨-, hmain, -⟩
  · obtain ⟨hvalue, hmain, -⟩ := p.videoEncode_main hsettled data hig
    rw [hstep, Settled, hmain, hvalue]
    exact hsettled
  · rw [Settled, hmain, PropertyState.hold_held]

/-- The values of the node while no mode is on. -/
def IdleValue (value : String) : Prop := value = "" ∨ value = "CAMERA_STREAMING"

/-- The property values from which the initialisation restores a flag. -/
def Restorable (value : String) : Prop :=
  value = "VIDEO_ENCODE" ∨ value = "SUSTAINED_PERFORMANCE" ∨ value = "VR_MODE" ∨
    value = "VR_SUSTAINED_PERFORMANCE"

/-- The property shows the node's value, or an encoding request, or nothing that is restored. -/
def Power.PropertyExplained (p : Power) : Prop :=
  p.main.property = p.mainValue ∨
    (p.main.property = "VIDEO_ENCODE" ∧ p.mEncoderModeOn = true ∧ IdleValue p.mainValue) ∨
    (¬ Restorable p.main.property ∧ IdleValue p.mainValue)

/-- Without a mode the node holds an idle value. -/
theorem Power.mainValue_idle (p : Power) (hmodes : p.ModesInStep) (hig : p.ignoring = false) :
    IdleValue p.mainValue := by
  obtain ⟨hv, hm⟩ := Bool.or_eq_false_iff.mp hig
  cases hcamera : outstanding .cameraStreaming p.calls with
  | true => exact Or.inr (powerHALMainState_value_of_camera _ hcamera)
  | false =>
    left
    rw [hmodes.mainValue hcamera, hv, hm]
    rfl

/-- Every event keeps the property explained. -/
theorem Power.PropertyExplained.step {p : Power} (hready : p.mReady = true)
    (hmodes : p.ModesInStep) (hsettled : p.Settled) (h : p.PropertyExplained) (e : Event) :
    (p.step e).PropertyExplained := by
  rcases p.step_main hready hmodes hsettled e with ⟨data, ⟨-, hig⟩, hstep⟩ | ⟨-, hmain, henc⟩
  · obtain ⟨hvalue, hmain, henc⟩ := p.videoEncode_main hsettled data hig
    have hidle := p.mainValue_idle hmodes hig
    rw [hstep, PropertyExplained, hmain, henc, hvalue]
    by_cases hd : data = 0
    · exact Or.inr (Or.inr ⟨by simp [hd, Restorable], hidle⟩)
    · exact Or.inr (Or.inl ⟨by simp [hd], by simp [hd], hidle⟩)
  · by_cases hsame : (p.step e).mainValue = p.main.held
    · rw [PropertyExplained, hmain, henc, p.main.hold_of_eq _ hsame, hsame, hsettled]
      exact h
    · rw [PropertyExplained, hmain, p.main.hold_of_ne _ hsame]
      exact Or.inl rfl

end Yoshino.PowerHal
