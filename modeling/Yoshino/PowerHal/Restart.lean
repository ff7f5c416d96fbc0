import Yoshino.PowerHal.MainState

/-!
# Restarting the power HAL

A restarted service reads its modes back from `vendor.powerhal.state`, one string for three
flags. The string cannot name a mode together with encoding, camera streaming outranks the
modes on the node that writes it, and any change of the node overwrites an encoding request.
The modes come back exactly in the remaining cases.
-/

namespace Yoshino.PowerHal

open Yoshino.Library

/-- The service that takes over the properties of a dead one. -/
def Power.restarted (p : Power) : Power := started p.properties

/-- The three flags that a restart is to restore. -/
def Power.flags (p : Power) : Bool × Bool × Bool :=
  (p.mVRModeOn, p.mSustainedPerfModeOn, p.mEncoderModeOn)

/-- No event of the run changes the value requested of the main-state node. -/
def MainStateSteady (p : Power) (events : List Event) : Prop :=
  StepsMeet Power.step (fun q e => (q.step e).mainValue = q.mainValue) p events

/-- The last thing that could write the state property was a request to encode: one restored at
the start or acted on during the run, with a steady main state ever since. -/
def EncodingWrittenLast (props : Properties) (events : List Event) : Prop :=
  (props.state = "VIDEO_ENCODE" ∧ MainStateSteady (.started props) events) ∨
    ∃ before e after data, events = before ++ e :: after ∧ data ≠ 0 ∧
      (run Power.step (.started props) before).Encodes e data ∧
      MainStateSteady (run Power.step (.started props) (before ++ [e])) after

/-- A further event that is no encoding request keeps the request visible while it is steady. -/
theorem encodingWrittenLast_concat (props : Properties) (events : List Event) (e : Event)
    (hnot : ∀ data, ¬ (run Power.step (.started props) events).Encodes e data) :
    EncodingWrittenLast props (events ++ [e]) ↔ EncodingWrittenLast props events ∧
      (run Power.step (.started props) (events ++ [e])).mainValue =
        (run Power.step (.started props) events).mainValue := by
  have hsteady (p : Power) (rest : List Event) : MainStateSteady p (rest ++ [e]) ↔
      MainStateSteady p rest ∧
        (run Power.step p (rest ++ [e])).mainValue = (run Power.step p rest).mainValue := by
    rw [MainStateSteady, stepsMeet_append, run_concat]
    simp [MainStateSteady, StepsMeet]
  constructor
  · rintro (⟨hstate, h⟩ | ⟨before, e', after, data, hsplit, hd, henc, h⟩)
    · obtain ⟨h, hlast⟩ := (hsteady _ _).mp h
      exact ⟨Or.inl ⟨hstate, h⟩, hlast⟩
    · rcases List.eq_nil_or_concat after with rfl | ⟨after, last, rfl⟩
      · -- the encoding request would be the new event itself
        obtain ⟨rfl, hlast⟩ := List.append_inj' hsplit rfl
        obtain rfl : e = e' := by simpa using hlast
        exact absurd henc (hnot data)
      · rw [List.concat_eq_append] at hsplit h
        have hsplit' : events ++ [e] = (before ++ e' :: after) ++ [last] := by simp [hsplit]
        obtain ⟨rfl, hlast⟩ := List.append_inj' hsplit' rfl
        obtain rfl : e = last := by simpa using hlast
        obtain ⟨h, hlast⟩ := (hsteady _ _).mp h
        refine ⟨Or.inr ⟨before, e', after, data, rfl, hd, henc, h⟩, ?_⟩
        simpa [run_append] using hlast
  · rintro ⟨⟨hstate, h⟩ | ⟨before, e', after, data, rfl, hd, henc, h⟩, hlast⟩
    · exact Or.inl ⟨hstate, (hsteady _ _).mpr ⟨h, hlast⟩⟩
    · refine Or.inr ⟨before, e', after ++ [e], data, by simp, hd, henc, (hsteady _ _).mpr ⟨h, ?_⟩⟩
      simpa [run_append] using hlast

/-- What holds of the main-state property throughout every run. -/
structure MainStateInvariant (props : Properties) (events : List Event) (p : Power) : Prop where
  ready : p.mReady = true
  modes : p.ModesInStep
  settled : p.Settled
  explained : p.PropertyExplained
  encoding : p.mEncoderModeOn = true →
    (p.main.property = "VIDEO_ENCODE" ↔ EncodingWrittenLast props events)

/-- Restoring the audio and rendering hints leaves the main state alone. -/
private theorem restoreOthers_main (p : Power) (hsettled : p.Settled) :
    p.restoreAudio.restoreRendering.main = p.main ∧
      p.restoreAudio.restoreRendering.mainValue = p.mainValue ∧
      p.restoreAudio.restoreRendering.mEncoderModeOn = p.mEncoderModeOn := by
  have hrecord (q : Power) (hq : q.Settled) (h : Hint) (hh : h = .audioLowLatency ∨ h = .expensiveRendering) :
      (q.doHint h).main = q.main ∧ (q.doHint h).mainValue = q.mainValue := by
    have hvalue : (q.doHint h).mainValue = q.mainValue := by
      rcases hh with rfl | rfl <;>
        exact powerHALMainState_value_cons _ _ (by decide) (by decide) (by decide) (by decide)
    refine ⟨?_, hvalue⟩
    rw [Power.doHint, Power.record_main, ← Power.doHint, hvalue]
    exact q.main.hold_of_eq _ hq.symm
  have haudio : p.restoreAudio.main = p.main ∧ p.restoreAudio.mainValue = p.mainValue ∧
      p.restoreAudio.mEncoderModeOn = p.mEncoderModeOn := by
    unfold Power.restoreAudio
    split
    · exact ⟨(hrecord p hsettled _ (Or.inl rfl)).1, (hrecord p hsettled _ (Or.inl rfl)).2, rfl⟩
    · exact ⟨rfl, rfl, rfl⟩
  have hsettled' : p.restoreAudio.Settled := by
    rw [Power.Settled, haudio.1, haudio.2.1]
    exact hsettled
  unfold Power.restoreRendering
  split
  · obtain ⟨hmain, hvalue⟩ := hrecord _ hsettled' .expensiveRendering (Or.inr rfl)
    exact ⟨hmain.trans haudio.1, hvalue.trans haudio.2.1, haudio.2.2⟩
  · exact haudio

/-- The initialisation establishes the invariant. -/
theorem mainStateInvariant_started (props : Properties) :
    MainStateInvariant props [] (.started props) := by
  have hstate : (Power.construct props).restoreState.Settled ∧
      (Power.construct props).restoreState.PropertyExplained ∧
      ((Power.construct props).restoreState.mEncoderModeOn = true →
        ((Power.construct props).restoreState.main.property = "VIDEO_ENCODE" ↔
          props.state = "VIDEO_ENCODE")) := by
    have hidle : powerHALMainState.value [] = "" := by decide
    have hencode : powerHALMainState.value [.doHint .videoEncode] = "" := by decide
    have hsustained : powerHALMainState.value [.doHint .sustainedPerformance] =
        "SUSTAINED_PERFORMANCE" := by decide
    have hvr : powerHALMainState.value [.doHint .vrMode] = "VR_MODE" := by decide
    have hboth : powerHALMainState.value [.doHint .vrSustainedPerformance] =
        "VR_SUSTAINED_PERFORMANCE" := by decide
    have hproperty : (Power.construct props).main.property = props.state := rfl
    unfold Power.Settled Power.PropertyExplained Power.mainValue Power.restoreState
    rw [hproperty]
    by_cases hisEncode : props.state = "VIDEO_ENCODE"
    · simp [hisEncode, Power.doHint, Power.record, Power.construct, PropertyState.hold, IdleValue,
        hidle, hencode]
    by_cases hisSustained : props.state = "SUSTAINED_PERFORMANCE"
    · simp [hisSustained, Power.doHint, Power.record, Power.construct, PropertyState.hold, hidle,
        hsustained]
    by_cases hisVr : props.state = "VR_MODE"
    · simp [hisVr, Power.doHint, Power.record, Power.construct, PropertyState.hold, hidle, hvr]
    by_cases hisBoth : props.state = "VR_SUSTAINED_PERFORMANCE"
    · simp [hisBoth, Power.doHint, Power.record, Power.construct, PropertyState.hold, hidle, hboth]
    · simp [hisEncode, hisSustained, hisVr, hisBoth, Power.construct, Restorable, IdleValue, hidle]
  obtain ⟨hsettled, hexplained, hencoding⟩ := hstate
  obtain ⟨hmain, hvalue, henc⟩ := restoreOthers_main _ hsettled
  have hmain' : (Power.started props).main = (Power.construct props).restoreState.main := hmain
  have hvalue' : (Power.started props).mainValue = (Power.construct props).restoreState.mainValue := hvalue
  have henc' : (Power.started props).mEncoderModeOn =
      (Power.construct props).restoreState.mEncoderModeOn := henc
  refine ⟨rfl, Power.started_modesInStep props, ?_, ?_, ?_⟩
  · rw [Power.Settled, hmain', hvalue']
    exact hsettled
  · rw [Power.PropertyExplained, hmain', hvalue', henc']
    exact hexplained
  · rw [hmain', henc']
    intro h
    rw [hencoding h]
    simp [EncodingWrittenLast, MainStateSteady, StepsMeet]

/-- One further event keeps the invariant. -/
theorem MainStateInvariant.concat {props : Properties} {events : List Event} {p : Power}
    (hp : p = run Power.step (.started props) events) (h : MainStateInvariant props events p)
    (e : Event) : MainStateInvariant props (events ++ [e]) (p.step e) := by
  refine ⟨(p.step_mReady e).trans h.ready, h.modes.step e, h.settled.step h.ready h.modes e,
    h.explained.step h.ready h.modes h.settled e, ?_⟩
  intro henc
  rcases p.step_main h.ready h.modes h.settled e with ⟨data, hdata, hstep⟩ | ⟨hnot, hmain, hflag⟩
  · -- the request that switched encoding on is the last writer
    obtain ⟨-, hmain, hflag⟩ := p.videoEncode_main h.settled data hdata.2
    rw [hstep, hflag, decide_eq_true_iff] at henc
    rw [hstep, hmain]
    simp only [henc, if_false, true_iff]
    exact Or.inr ⟨events, e, [], data, rfl, henc, hp ▸ hdata, trivial⟩
  · rw [hflag] at henc
    rw [encodingWrittenLast_concat props events e (hp ▸ hnot), run_concat, ← hp, ← h.encoding henc,
      hmain]
    by_cases hsame : (p.step e).mainValue = p.main.held
    · rw [p.main.hold_of_eq _ hsame]
      simp [hsame, show p.main.held = p.mainValue from h.settled]
    · rw [p.main.hold_of_ne _ hsame]
      have hne : (p.step e).mainValue ≠ p.mainValue := fun heq => hsame (heq.trans h.settled.symm)
      simp [hne, (p.step e).mainValue_ne_videoEncode]

/-- The invariant holds after every finite sequence of events. -/
theorem mainStateInvariant_run (props : Properties) (events : List Event) :
    MainStateInvariant props events (run Power.step (.started props) events) := by
  induction events using List.reverseRecOn with
  | nil => exact mainStateInvariant_started props
  | append_singleton events e ih =>
    rw [run_concat]
    exact ih.concat rfl e

/-- The flags a restarted service reads back from the state property. -/
theorem Power.restarted_flags (p : Power) :
    p.restarted.flags =
      (decide (p.main.property = "VR_MODE" ∨ p.main.property = "VR_SUSTAINED_PERFORMANCE"),
        decide (p.main.property = "SUSTAINED_PERFORMANCE" ∨
          p.main.property = "VR_SUSTAINED_PERFORMANCE"),
        decide (p.main.property = "VIDEO_ENCODE")) := by
  obtain ⟨hv, hs, he⟩ := started_flags p.properties
  exact Prod.ext hv (Prod.ext hs he)

/-- Without camera streaming the property shows the mode that is on. -/
private theorem property_of_mode (p : Power) (hmodes : p.ModesInStep) (h : p.PropertyExplained)
    (hig : p.ignoring = true) (hcamera : outstanding .cameraStreaming p.calls = false) :
    p.main.property = if p.mVRModeOn then
        if p.mSustainedPerfModeOn then "VR_SUSTAINED_PERFORMANCE" else "VR_MODE"
      else "SUSTAINED_PERFORMANCE" := by
  have hvalue : p.mainValue = if p.mVRModeOn then
      if p.mSustainedPerfModeOn then "VR_SUSTAINED_PERFORMANCE" else "VR_MODE"
      else "SUSTAINED_PERFORMANCE" := by
    rw [Power.mainValue, powerHALMainState_value_of_no_camera _ hcamera]
    cases hv : p.mVRModeOn <;> cases hs : p.mSustainedPerfModeOn <;>
      simp_all [hmodes.vr, hmodes.sustained, hmodes.both, Power.ignoring]
  have hbusy : ¬ IdleValue p.mainValue := by
    rw [hvalue]
    repeat' split
    all_goals simp [IdleValue]
  rcases h with h | ⟨-, -, hidle⟩ | ⟨-, hidle⟩
  · exact h.trans hvalue
  · exact absurd hidle hbusy
  · exact absurd hidle hbusy

/-- Behind camera streaming, or without a mode, the property never restores a mode. -/
private theorem property_restores_no_mode (p : Power) (h : p.PropertyExplained)
    (hidle : IdleValue p.mainValue) :
    p.main.property ≠ "VR_MODE" ∧ p.main.property ≠ "VR_SUSTAINED_PERFORMANCE" ∧
      p.main.property ≠ "SUSTAINED_PERFORMANCE" := by
  rcases h with h | ⟨h, -, -⟩ | ⟨h, -⟩
  · rw [h]
    rcases hidle with hv | hv <;> simp [hv]
  · simp [h]
  · simp only [Restorable, not_or] at h
    exact ⟨h.2.2.1, h.2.2.2, h.2.1⟩

/-- A restart restores the flags exactly when a mode is on without encoding and without camera
streaming, or no mode is on and, if encoding is on, its request wrote the property last. -/
theorem Power.restart_restores_modes_iff (props : Properties) (events : List Event) :
    let p := run step (started props) events
    p.restarted.flags = p.flags ↔
      (p.ignoring = true →
        p.mEncoderModeOn = false ∧ outstanding .cameraStreaming p.calls = false) ∧
      (p.ignoring = false → p.mEncoderModeOn = true → EncodingWrittenLast props events) := by
  intro p
  obtain ⟨-, hmodes, -, hexplained, hencoding⟩ := mainStateInvariant_run props events
  change p.ModesInStep at hmodes
  change p.PropertyExplained at hexplained
  change p.mEncoderModeOn = true → _ at hencoding
  rw [restarted_flags]
  cases hig : p.ignoring with
  | true =>
    cases hcamera : outstanding .cameraStreaming p.calls with
    | true =>
      obtain ⟨hvr, hboth, hs⟩ := property_restores_no_mode p hexplained
        (Or.inr (powerHALMainState_value_of_camera _ hcamera))
      have hon : ¬ (p.mVRModeOn = false ∧ p.mSustainedPerfModeOn = false) := by
        simpa [ignoring, ← Bool.or_eq_false_iff] using hig
      simp only [flags, hvr, hboth, hs, or_self, decide_false, Prod.mk.injEq]
      constructor
      · rintro ⟨hv, hs, -⟩
        exact absurd ⟨hv.symm, hs.symm⟩ hon
      · rintro ⟨h, -⟩
        simp at h
    | false =>
      rw [property_of_mode p hmodes hexplained hig hcamera]
      cases hv : p.mVRModeOn <;> cases hs : p.mSustainedPerfModeOn <;>
        cases he : p.mEncoderModeOn <;> simp_all [flags, ignoring]
  | false =>
    obtain ⟨hv, hs⟩ := Bool.or_eq_false_iff.mp hig
    have hidle := p.mainValue_idle hmodes hig
    obtain ⟨hvr, hboth, hsus⟩ := property_restores_no_mode p hexplained hidle
    simp only [flags, hvr, hboth, hsus, hv, hs, or_self, decide_false, Prod.mk.injEq, true_and]
    cases he : p.mEncoderModeOn with
    | true => simpa using hencoding he
    | false =>
      have hnot : p.main.property ≠ "VIDEO_ENCODE" := by
        rcases hexplained with h | ⟨-, h, -⟩ | ⟨h, -⟩
        · rw [h]
          exact p.mainValue_ne_videoEncode
        · simp [he] at h
        · exact fun heq => h (Or.inl heq)
      simp [hnot]

/-- A request for the hint through the 1.2 entry point. -/
private def askCamera (data : Int32) : Event := .request (.powerHintAsync_1_2 .cameraStreaming data)

/-- VR mode is lost by a restart during camera streaming. -/
theorem Power.restart_loses_vr_mode :
    let p := run step (started ⟨"", "", ""⟩) [askCamera 1000, .request (.powerHint .vrMode 1)]
    p.mVRModeOn = true ∧ p.restarted.mVRModeOn = false := by
  decide

end Yoshino.PowerHal
