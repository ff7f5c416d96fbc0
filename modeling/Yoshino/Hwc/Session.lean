import Yoshino.Hwc.Display
import Yoshino.Library.PartialRuns

/-!
# The session of the composer

`HWCSession` has up to three displays and passes the calls of the client on to them. The displays come
and go with their cables and sinks.
-/

namespace Yoshino.Hwc

open Yoshino.Display (DisplayType LayerComposition FloatArith)

variable {F : Type} [FloatArith F]

/-- `HWCSession`: the displays, and what they share. -/
structure Session (F : Type) [FloatArith F] where
  displays : DisplayType → Option (HwcDisplay F) := fun _ => none
  validated : Finset DisplayType := ∅
  nextId : LayerId := 1
  ledger : Ledger := {}

/-- What the properties and the panel say about a new display. -/
structure Settings where
  swapIntervalZero : Bool := false
  disableHdrHandling : Bool := false
  isCmdMode : Bool := false
  useMetadataRefreshRate : Bool := false
  minRefreshRate : UInt32 := 60
  maxRefreshRate : UInt32 := 60

/-- A display after `Init`; the client target takes a number as every layer does. -/
def Settings.display (settings : Settings) (type : DisplayType) (id : LayerId) : HwcDisplay F where
  type := type
  clientTarget := { id := id }
  currentRefreshRate := settings.maxRefreshRate
  useMetadataRefreshRate := settings.useMetadataRefreshRate
  swapIntervalZero := settings.swapIntervalZero
  disableHdrHandling := settings.disableHdrHandling
  isCmdMode := settings.isCmdMode
  minRefreshRate := settings.minRefreshRate
  maxRefreshRate := settings.maxRefreshRate

/-- The calls of the client and of the system. -/
inductive Call (F : Type)
  | createDisplay (settings : Settings)
  | destroyDisplay
  | createLayer
  | destroyLayer (id : LayerId)
  | setLayerZOrder (id : LayerId) (z : UInt32)
  | layerFunction (id : LayerId) (call : LayerCall F)
  | setClientTarget (dup : Int) (target : Option (Handle F)) (acquireFence dataspace : Int)
      (damage : List Frame)
  | validate (validation : Composer.Validation)
  | acceptDisplayChanges
  | present (answer : Composer.Committed)
  | getReleaseFences
  | setPowerMode (mode : Composer.PowerMode) (error : DisplayError)
  | setDisplayStatus (status : Composer.DisplayStatus) (error : DisplayError)
  | toggleScreenUpdates (enable : Bool)
  | setColorTransform (identity ok : Bool)
  | setDisplayAnimating (animating : Bool)
  | setSolidFill (enable : Bool)
  | forceRefreshRate (rate : UInt32)
  /-- `Refresh`, after the idle timeout. -/
  | refresh
  /-- `SetActiveConfig`, `SetPanelBrightness`, `SetMaxMixerStages` and others only take the validation back. -/
  | resetValidation

/-- What a display sees of the session. -/
def Session.view (s : Session F) (d : HwcDisplay F) : Composer F := ⟨d, s.validated, s.nextId, s.ledger⟩

/-- What a display leaves behind in the session. -/
def Session.put (s : Session F) (type : DisplayType) (h : Composer F) : Session F where
  displays := Function.update s.displays type (some h.display)
  validated := h.validated
  nextId := h.nextId
  ledger := h.ledger

/-- A call to a display. -/
def Composer.call (current : Int → Int) (h : Composer F) : Call F → Option (Composer F)
  | .createLayer => some h.createLayer.1
  | .destroyLayer id => (h.destroyLayer id).map Prod.fst
  | .setLayerZOrder id z => (h.setLayerZOrder id z).map Prod.fst
  | .layerFunction id call => (h.callLayerFunction current id call).map Prod.fst
  | .setClientTarget dup target acquireFence dataspace damage =>
      some (h.setClientTarget current dup target acquireFence dataspace damage).1
  | .validate validation => (h.validate validation).map Prod.fst
  | .acceptDisplayChanges => h.acceptDisplayChanges.map Prod.fst
  | .present answer => (h.present answer).map Prod.fst
  | .getReleaseFences => h.getReleaseFences.map Prod.fst
  | .setPowerMode mode error => some (h.setPowerMode mode error).1
  | .setDisplayStatus status error => some (h.setDisplayStatus status error)
  | .toggleScreenUpdates enable => some (h.toggleScreenUpdates enable)
  | .setColorTransform identity ok => some (h.setColorTransform identity ok).1
  | .setDisplayAnimating animating =>
      some { h with display := { h.display with animating := animating }, validated := ∅ }
  | .setSolidFill enable =>
      some { h with display := { h.display with solidFillEnable := enable }, validated := ∅ }
  | .forceRefreshRate rate => some (h.forceRefreshRate rate)
  | .refresh => some h.refresh
  | .resetValidation => some { h with validated := ∅ }
  | .createDisplay _ | .destroyDisplay => some h

/-- The destructor of a layer, with what it closes. -/
def closeLayer (closed : List Int) (l : HwcLayer F) : HwcLayer F × List Int :=
  ({ l with releaseFences := [], ionFd := -1 }, closed ++ Composer.closings l)

/-- `Deinit`: the layers are deleted one by one, after the client target. -/
def Session.destroyDisplay (s : Session F) (type : DisplayType) (d : HwcDisplay F) : Option (Session F) :=
  (forLayers closeLayer d.layerSet d.layers (Composer.closings d.clientTarget)).map fun r => { s with
    displays := Function.update s.displays type none
    ledger := s.ledger.add { closed := r.2 } }

/-- `Create` of a display: `Init` takes the validation of all displays back. -/
def Session.createDisplay (s : Session F) (type : DisplayType) (settings : Settings) : Session F :=
  { s with
    displays := Function.update s.displays type (some (settings.display type s.nextId))
    validated := ∅
    nextId := s.nextId + 1 }

/-- One call of the session; it is none if the call reaches for a layer that is not there. -/
def Session.call (current : Int → Int) (s : Session F) (type : DisplayType) (call : Call F) :
    Option (Session F) :=
  match s.displays type, call with
  | none, .createDisplay settings => some (s.createDisplay type settings)
  | none, _ => some s
  | some d, .destroyDisplay => s.destroyDisplay type d
  | some d, call => ((s.view d).call current call).map (s.put type)

/-- One call, with the display it is for. -/
def Session.step (current : Int → Int) (s : Session F) (event : DisplayType × Call F) : Option (Session F) :=
  s.call current event.1 event.2

/-- A small buffer, for secure content or not. -/
def smallBuffer (secure : Bool) : Handle F where
  fd := 5
  format := .rgba8888
  alignedWidth := 64
  alignedHeight := 64
  unalignedWidth := 64
  unalignedHeight := 64
  width := 64
  offset := 0
  size := 16384
  secureDisplay := secure

/-- A frame of one layer: its buffer, its acquire fence, and the fences of the display core. -/
def Session.firstFrame : List (DisplayType × Call F) :=
  [(.primary, .createDisplay {}), (.primary, .createLayer),
    (.primary, .layerFunction 2 (.setLayerBuffer 10 (some (smallBuffer false)) 11)),
    (.primary, .validate { prepared := { error := .none, composition := fun _ => .sde } }),
    (.primary, .present { error := .none, releaseFence := fun _ => 20, retireFence := 21 })]

/-- The sessions that calls lead to. -/
def Session.Reachable (current : Int → Int) : Session F → Prop := Library.Reaches (Session.step current) {}

end Yoshino.Hwc
