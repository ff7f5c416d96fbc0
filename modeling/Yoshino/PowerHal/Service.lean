import Yoshino.Library.Runs
import Yoshino.PowerHal.HintManager

/-!
# The power HAL service

`Power` holds the mode flags of the service together with the hint manager it drives and
the system properties it shares with it. Properties outlive the service, so a restart is a
fresh construction on the properties left behind. The requests arrive through four entry
points on a one-thread RPC pool, hence one at a time; the newer entry points forward hints
they do not know to the older ones.

Requests that arrive before the initialisation thread has finished are dropped.
-/

namespace Yoshino.PowerHal

open Yoshino.Library

/-- The hints of the 1.0 interface; values outside the enumeration reach the default branch. -/
inductive PowerHint10
  | vsync
  | interaction
  | videoEncode
  | videoDecode
  | lowPower
  | sustainedPerformance
  | vrMode
  | launch
  | other (value : UInt32)
  deriving DecidableEq, Repr

/-- The hints of the 1.2 interface, which extends the 1.0 enumeration. -/
inductive PowerHint12
  | v10 (hint : PowerHint10)
  | audioStreaming
  | audioLowLatency
  | cameraLaunch
  | cameraStreaming
  | cameraShot
  deriving DecidableEq, Repr

/-- The hints of the 1.3 interface, which extends the 1.2 enumeration. -/
inductive PowerHint13
  | v12 (hint : PowerHint12)
  | expensiveRendering
  deriving DecidableEq, Repr

/-- The power HAL's system properties. -/
structure Properties where
  state : String
  audio : String
  rendering : String
  deriving DecidableEq, Repr

/-- The service: its flags, the hint manager's history and nodes, and the interaction requests
handed to `InteractionHandler::Acquire`, newest first. -/
structure Power where
  calls : List HintCall
  main : PropertyState
  audio : PropertyState
  rendering : PropertyState
  mVRModeOn : Bool
  mSustainedPerfModeOn : Bool
  mEncoderModeOn : Bool
  mReady : Bool
  acquired : List Int32
  deriving DecidableEq, Repr

/-- The properties a dying service leaves behind. -/
def Power.properties (p : Power) : Properties :=
  ⟨p.main.property, p.audio.property, p.rendering.property⟩

/-- Pass one call to the hint manager and let its property nodes settle. -/
def Power.record (p : Power) (call : HintCall) : Power :=
  { p with
    calls := call :: p.calls
    main := p.main.hold (powerHALMainState.value (call :: p.calls))
    audio := p.audio.hold (powerHALAudioState.value (call :: p.calls))
    rendering := p.rendering.hold (powerHALRenderingState.value (call :: p.calls)) }

/-- `HintManager::DoHint`. -/
def Power.doHint (p : Power) (h : Hint) : Power := p.record (.doHint h)

/-- `HintManager::EndHint`. -/
def Power.endHint (p : Power) (h : Hint) : Power := p.record (.endHint h)

/-- `SetProperty(kPowerHalStateProp, value)`. -/
def Power.setStateProperty (p : Power) (value : String) : Power :=
  { p with main := p.main.setProperty value }

/-- The constructor before its initialisation thread runs: a new hint manager, all flags off. -/
def Power.construct (props : Properties) : Power where
  calls := []
  main := ⟨powerHALMainState.value [], props.state⟩
  audio := ⟨powerHALAudioState.value [], props.audio⟩
  rendering := ⟨powerHALRenderingState.value [], props.rendering⟩
  mVRModeOn := false
  mSustainedPerfModeOn := false
  mEncoderModeOn := false
  mReady := false
  acquired := []

/-- Restore the mode recorded in `vendor.powerhal.state`. -/
def Power.restoreState (p : Power) : Power :=
  if p.main.property = "VIDEO_ENCODE" then
    { p.doHint .videoEncode with mEncoderModeOn := true }
  else if p.main.property = "SUSTAINED_PERFORMANCE" then
    { p.doHint .sustainedPerformance with mSustainedPerfModeOn := true }
  else if p.main.property = "VR_MODE" then
    { p.doHint .vrMode with mVRModeOn := true }
  else if p.main.property = "VR_SUSTAINED_PERFORMANCE" then
    { p.doHint .vrSustainedPerformance with mSustainedPerfModeOn := true, mVRModeOn := true }
  else p

/-- Restore the hint recorded in `vendor.powerhal.audio`. -/
def Power.restoreAudio (p : Power) : Power :=
  if p.audio.property = "AUDIO_LOW_LATENCY" then p.doHint .audioLowLatency else p

/-- Restore the hint recorded in `vendor.powerhal.rendering`. -/
def Power.restoreRendering (p : Power) : Power :=
  if p.rendering.property = "EXPENSIVE_RENDERING" then p.doHint .expensiveRendering else p

/-- The initialisation thread, after which hints are taken. -/
def Power.initialise (p : Power) : Power :=
  { p.restoreState.restoreAudio.restoreRendering with mReady := true }

/-- Whether VR mode or sustained performance makes the service ignore other client hints. -/
def Power.ignoring (p : Power) : Bool := p.mVRModeOn || p.mSustainedPerfModeOn

/-- The sustained-performance branch of `Power::powerHint`. -/
def Power.sustainedPerformance (p : Power) (data : Int32) : Power :=
  if data ≠ 0 && !p.mSustainedPerfModeOn then
    { (if !p.mVRModeOn then p.doHint .sustainedPerformance
        else (p.endHint .vrMode).doHint .vrSustainedPerformance) with mSustainedPerfModeOn := true }
  else if data = 0 && p.mSustainedPerfModeOn then
    let q := (p.endHint .vrSustainedPerformance).endHint .sustainedPerformance
    { (if p.mVRModeOn then q.doHint .vrMode else q) with mSustainedPerfModeOn := false }
  else p

/-- The VR-mode branch of `Power::powerHint`. -/
def Power.vrMode (p : Power) (data : Int32) : Power :=
  if data ≠ 0 && !p.mVRModeOn then
    { (if !p.mSustainedPerfModeOn then p.doHint .vrMode
        else (p.endHint .sustainedPerformance).doHint .vrSustainedPerformance) with mVRModeOn := true }
  else if data = 0 && p.mVRModeOn then
    let q := (p.endHint .vrSustainedPerformance).endHint .vrMode
    { (if p.mSustainedPerfModeOn then q.doHint .sustainedPerformance else q) with mVRModeOn := false }
  else p

/-- The video-encode branch of `Power::powerHint`. -/
def Power.videoEncode (p : Power) (data : Int32) : Power :=
  if p.ignoring then p
  -- the source repeats the test inside its trace section
  else if p.ignoring then p
  else if data ≠ 0 then
    { (p.doHint .videoEncode).setStateProperty "VIDEO_ENCODE" with mEncoderModeOn := true }
  else
    { (p.endHint .videoEncode).setStateProperty "" with mEncoderModeOn := false }

/-- `Power::powerHint`. -/
def Power.powerHint (p : Power) (hint : PowerHint10) (data : Int32) : Power :=
  if !p.mReady then p else
  match hint with
  | .interaction => if p.ignoring then p else { p with acquired := data :: p.acquired }
  | .videoEncode => p.videoEncode data
  | .sustainedPerformance => p.sustainedPerformance data
  | .vrMode => p.vrMode data
  | .launch =>
    if p.ignoring then p
    else if data ≠ 0 then p.doHint .launch
    else p.endHint .launch
  | _ => p

/-- `Power::powerHintAsync`. -/
def Power.powerHintAsync (p : Power) (hint : PowerHint10) (data : Int32) : Power :=
  p.powerHint hint data

/-- Start a hint for positive data, end it for zero, and refuse negative data. -/
def Power.startForPositive (p : Power) (h : Hint) (data : Int32) : Power :=
  if data > 0 then p.doHint h else if data = 0 then p.endHint h else p

/-- `Power::powerHintAsync_1_2`. -/
def Power.powerHintAsync_1_2 (p : Power) (hint : PowerHint12) (data : Int32) : Power :=
  if !p.mReady then p else
  match hint with
  | .audioLowLatency => if data ≠ 0 then p.doHint .audioLowLatency else p.endHint .audioLowLatency
  | .audioStreaming => if data ≠ 0 then p.doHint .audioStreaming else p.endHint .audioStreaming
  | .cameraLaunch => p.startForPositive .cameraLaunch data
  | .cameraStreaming => p.startForPositive .cameraStreaming data
  | .cameraShot => p.startForPositive .cameraShot data
  | .v10 hint => p.powerHint hint data

/-- `Power::powerHintAsync_1_3`. -/
def Power.powerHintAsync_1_3 (p : Power) (hint : PowerHint13) (data : Int32) : Power :=
  if !p.mReady then p else
  match hint with
  | .expensiveRendering =>
    if p.ignoring then p
    else if data > 0 then p.doHint .expensiveRendering
    else p.endHint .expensiveRendering
  | .v12 hint => p.powerHintAsync_1_2 hint data

/-- A client request through one of the four entry points. -/
inductive Request
  | powerHint (hint : PowerHint10) (data : Int32)
  | powerHintAsync (hint : PowerHint10) (data : Int32)
  | powerHintAsync_1_2 (hint : PowerHint12) (data : Int32)
  | powerHintAsync_1_3 (hint : PowerHint13) (data : Int32)
  deriving DecidableEq, Repr

/-- The hint a request names, in the widest enumeration. -/
def Request.hint : Request → PowerHint13
  | .powerHint hint _ | .powerHintAsync hint _ => .v12 (.v10 hint)
  | .powerHintAsync_1_2 hint _ => .v12 hint
  | .powerHintAsync_1_3 hint _ => hint

/-- The data a request carries. -/
def Request.data : Request → Int32
  | .powerHint _ data | .powerHintAsync _ data => data
  | .powerHintAsync_1_2 _ data => data
  | .powerHintAsync_1_3 _ data => data

/-- Serve one request. -/
def Power.serve (p : Power) : Request → Power
  | .powerHint hint data => p.powerHint hint data
  | .powerHintAsync hint data => p.powerHintAsync hint data
  | .powerHintAsync_1_2 hint data => p.powerHintAsync_1_2 hint data
  | .powerHintAsync_1_3 hint data => p.powerHintAsync_1_3 hint data

/-- What can happen to a running service: a request, the timeout of a timed hint, and the
interaction handler's worker taking or releasing its own hint. -/
inductive Event
  | request (r : Request)
  | timeout (h : Hint)
  | perfLock
  | perfRel
  deriving DecidableEq, Repr

/-- One event of the running service. -/
def Power.step (p : Power) : Event → Power
  | .request r => p.serve r
  | .timeout h => if h.timed && outstanding h p.calls then p.record (.timeout h) else p
  | .perfLock => p.doHint .interaction
  | .perfRel => p.endHint .interaction

/-- The service after its constructor and initialisation thread, ready for requests. -/
def Power.started (props : Properties) : Power := (Power.construct props).initialise

/-- The 1.3 entry point forwards every hint of the 1.2 enumeration. -/
theorem Power.powerHintAsync_1_3_v12 (p : Power) (hint : PowerHint12) (data : Int32) :
    p.powerHintAsync_1_3 (.v12 hint) data = p.powerHintAsync_1_2 hint data := by
  cases hready : p.mReady <;> simp [powerHintAsync_1_3, powerHintAsync_1_2, hready]

/-- The 1.2 entry point forwards every hint of the 1.0 enumeration. -/
theorem Power.powerHintAsync_1_2_v10 (p : Power) (hint : PowerHint10) (data : Int32) :
    p.powerHintAsync_1_2 (.v10 hint) data = p.powerHint hint data := by
  cases hready : p.mReady <;> simp [powerHintAsync_1_2, powerHint, hready]

/-- All four entry points serve a request as the newest one does. -/
theorem Power.serve_eq (p : Power) (r : Request) :
    p.serve r = p.powerHintAsync_1_3 r.hint r.data := by
  cases r with
  | powerHint hint data | powerHintAsync hint data =>
    exact ((p.powerHintAsync_1_3_v12 _ _).trans (p.powerHintAsync_1_2_v10 _ _)).symm
  | powerHintAsync_1_2 hint data => exact (p.powerHintAsync_1_3_v12 _ _).symm
  | powerHintAsync_1_3 hint data => rfl

end Yoshino.PowerHal
