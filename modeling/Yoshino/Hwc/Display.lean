import Mathlib.Data.Finset.Erase
import Mathlib.Data.Finset.Insert
import Mathlib.Data.List.Sort
import Yoshino.Display.ResourceDefault
import Yoshino.Hwc.Layer

/-!
# Displays of the composer

`HWCDisplay` keeps the layers of a display by number and by depth, builds from them the stack that the
display core validates and commits, and passes fences on. Which displays are validated is known to all
of them together. Layers are objects: the two containers and the stack hold pointers, so an access may
find that the object is gone, and the result is then none. What the display core answers is an argument.

The model is of displays without a frame dump and without tone mapping: `SetFrameDumpConfig` has set no
count of frames, so that `DumpInputBuffers` returns at once, and the display core asks for the tone
mapping of no layer, so that `HandleToneMap` and `PostCommit` of the tone mapper change no buffer. Both
would take acquire fences from the layers.
-/

namespace Yoshino.Hwc

open Yoshino.Display (LayerRect LayerBufferFormat LayerComposition DisplayType FloatArith)
open Yoshino.Display.FloatArith

/-- `DisplayError` of the display core, as far as the composer tells them apart. -/
inductive DisplayError
  | none
  | permission
  | shutDown
  | notValidated
  | other
  deriving DecidableEq, Repr

/-- `LayerStackFlags`. -/
structure LayerStackFlags where
  geometryChanged : Bool := false
  skipPresent : Bool := false
  videoPresent : Bool := false
  securePresent : Bool := false
  animating : Bool := false
  cursorPresent : Bool := false
  hdrPresent : Bool := false
  fbtValid : Bool := false

/-- A pointer in the stack. -/
inductive StackLayer
  | layer (id : LayerId)
  | clientTarget
  | solidFill
  deriving DecidableEq

/-- `LayerStack`. -/
structure LayerStack where
  layers : List StackLayer := []
  retireFenceFd : Int := -1
  flags : LayerStackFlags := {}

/-- The number of a layer of the client. -/
def StackLayer.client : StackLayer → Option LayerId
  | .layer id => some id
  | .clientTarget | .solidFill => none

/-- The layers of the client in a stack. -/
def LayerStack.ids (stack : LayerStack) : List LayerId := stack.layers.filterMap StackLayer.client

/-- The objects by their numbers. -/
abbrev Layers (F : Type) [FloatArith F] := LayerId → Option (HwcLayer F)

/-- `HWCDisplay`. -/
structure HwcDisplay (F : Type) [FloatArith F] where
  type : DisplayType
  clientTarget : HwcLayer F
  layers : Layers F := fun _ => none
  /-- `layer_set_`, in the order of its iteration. -/
  layerSet : List LayerId := []
  /-- `layer_map_`; an entry may hold the null pointer. -/
  layerMap : LayerId → Option (Option LayerId) := fun _ => none
  layerStack : LayerStack := {}
  /-- `layer_changes_` in the order of its keys. -/
  layerChanges : List (LayerId × Composition) := []
  layerRequests : List LayerId := []
  geometryChanges : UInt32 := 0
  flushOnError : Bool := false
  flush : Bool := false
  skipValidate : Bool := false
  skipPrepare : Bool := false
  shutdownPending : Bool := false
  displayPaused : Bool := false
  secureDisplayActive : Bool := false
  secureDisplayTransition : Bool := false
  colorTransformFailed : Bool := false
  solidFillEnable : Bool := false
  solidFillLayer : Option (Layer F) := none
  animating : Bool := false
  fbtValid : Bool := false
  layerStackInvalid : Bool := true
  displayRect : LayerRect F := .zero
  metadataRefreshRate : UInt32 := 0
  currentRefreshRate : UInt32 := 60
  forceRefreshRate : UInt32 := 0
  useMetadataRefreshRate : Bool := false
  handleIdleTimeout : Bool := false
  /-- What the properties and the panel say. -/
  swapIntervalZero : Bool := false
  disableHdrHandling : Bool := false
  isCmdMode : Bool := false
  minRefreshRate : UInt32 := 60
  maxRefreshRate : UInt32 := 60

/-- A display with what all displays share. -/
structure Composer (F : Type) [FloatArith F] where
  display : HwcDisplay F
  /-- `validated_`. -/
  validated : Finset DisplayType
  /-- `next_id_`. -/
  nextId : LayerId
  ledger : Ledger

variable {F : Type} [FloatArith F]

/-- A loop over layers, through their pointers. -/
def forLayers {α : Type} (f : α → HwcLayer F → HwcLayer F × α) :
    List LayerId → Layers F → α → Option (Layers F × α)
  | [], layers, a => some (layers, a)
  | id :: ids, layers, a =>
    match layers id with
    | none => none
    | some l => forLayers f ids (Function.update layers id (some (f a l).1)) (f a l).2

/-- A loop that only changes the layers. -/
def mapLayers (f : HwcLayer F → HwcLayer F) (ids : List LayerId) (layers : Layers F) : Option (Layers F) :=
  (forLayers (fun (_ : Unit) l => (f l, ())) ids layers ()).map Prod.fst

/-- The depth by which the set is sorted. -/
def Layers.z (layers : Layers F) (id : LayerId) : UInt32 := ((layers id).map HwcLayer.z).getD 0

/-- `emplace` of the sorted set: after all that are not deeper. -/
def emplace (z : LayerId → UInt32) (id : LayerId) (ids : List LayerId) : List LayerId :=
  ids.orderedInsert (fun a b => z a < z b) id

/-- `operator[]` of a map, with an assignment. -/
def insertKey {α : Type} (key : LayerId) (value : α) : List (LayerId × α) → List (LayerId × α)
  | [] => [(key, value)]
  | (k, v) :: rest =>
    if key < k then (key, value) :: (k, v) :: rest
    else if key = k then (key, value) :: rest
    else (k, v) :: insertKey key value rest

/-- `std::min`. -/
def minf (a b : F) : F := if b < a then b else a

/-- `std::max`. -/
def maxf (a b : F) : F := if a < b then b else a

/-- `Union`. -/
def union (a b : LayerRect F) : LayerRect F :=
  if !a.isValid && !b.isValid then .zero
  else if !a.isValid then b
  else if !b.isValid then a
  else ⟨minf a.left b.left, minf a.top b.top, maxf a.right b.right, maxf a.bottom b.bottom⟩

/-- `Is10BitFormat`. -/
def is10BitFormat : LayerBufferFormat → Bool
  | .rgba1010102 | .argb2101010 | .rgbx1010102 | .xrgb2101010 | .bgra1010102 | .abgr2101010
  | .bgrx1010102 | .xbgr2101010 | .rgba1010102Ubwc | .rgbx1010102Ubwc | .ycbcr420P010
  | .ycbcr420TP10Ubwc | .ycbcr420P010Ubwc => true
  | _ => false

/-- `kMaxLayerCount`. -/
def kMaxLayerCount : Nat := 32

namespace HwcDisplay

/-- `SanitizeRefreshRate`. -/
def sanitizeRefreshRate (d : HwcDisplay F) (request : UInt32) : UInt32 :=
  let rate :=
    if request < d.minRefreshRate then
      (d.minRefreshRate / request + (if d.minRefreshRate % request ≠ 0 then 1 else 0)) * request
    else request
  if d.maxRefreshRate < rate then d.maxRefreshRate else rate

/-- `IsSurfaceUpdated`. -/
def isSurfaceUpdated : List (LayerRect F) → Bool
  | [] => true
  | region :: _ => region.isValid

/-- What `BuildLayerStack` gathers on its way through the layers. -/
structure Build (F : Type) [FloatArith F] where
  flags : LayerStackFlags := {}
  secureDisplayActive : Bool := false
  metadataRefreshRate : UInt32 := 0
  displayRect : LayerRect F := .zero
  geometryChanges : UInt32 := 0
  closed : List Int := []

/-- The flags of a layer, from what the client has asked for. -/
def requestedFlags (l : HwcLayer F) : LayerFlags :=
  match l.clientRequested with
  | .client => { skip := true }
  | .solidColor => { solidFill := true }
  | _ => {}

/-- Whether the content of a layer has a high dynamic range. -/
def isHdrLayer (l : HwcLayer F) : Bool :=
  let color := l.layer.inputBuffer.colorMetadata
  color.colorPrimaries = .bt2020 && (color.transfer = .smpteSt2084 || color.transfer = .hlg)

/-- Whether the buffer of a layer must not be read by the graphics processor. -/
def isSecureLayer (l : HwcLayer F) : Bool :=
  let buffer := l.layer.inputBuffer
  (buffer.bufferId.elim false fun handle => handle.protectedBuffer || handle.secureBuffer) ||
    buffer.secureDisplay

/-- The flags are set anew, and the color of the buffer is read. -/
def startBuild (l : HwcLayer F) : HwcLayer F :=
  HwcLayer.validateAndSetCSC { l with layer := { l.layer with flags := requestedFlags l } }

/-- Without a swap interval nobody waits for the acquire fence. -/
def dropAcquire (d : HwcDisplay F) (l : HwcLayer F) : HwcLayer F × List Int :=
  let fence := l.layer.inputBuffer.acquireFenceFd
  if d.swapIntervalZero && decide (0 ≤ fence) then
    ({ l with layer := { l.layer with
      inputBuffer := { l.layer.inputBuffer with acquireFenceFd := -1 } } }, [fence])
  else (l, [])

/-- Whether a layer is the cursor; there is one, and only on top. -/
def isCursorLayer (d : HwcDisplay F) (l : HwcLayer F) : Bool :=
  l.clientRequested = .cursor && d.layerSet.getLast? = some l.id

/-- The default composition, and the flags that depend on the content. -/
def markLayer (d : HwcDisplay F) (l : HwcLayer F) : HwcLayer F :=
  let skipped := l.nonIntegralSourceCrop && !isSecureLayer l && !isHdrLayer l && !l.layer.flags.solidFill
  { l with layer := { l.layer with
    composition := .gpu
    flags := { l.layer.flags with
      skip := l.layer.flags.skip || skipped
      cursor := d.isCursorLayer l }
    inputBuffer := { l.layer.inputBuffer with
      hdr := l.layer.inputBuffer.hdr || (isHdrLayer l && !d.disableHdrHandling) } } }

/-- A new frame is adjusted to the scan of the display. -/
def placeLayer (scan : Frame → Frame) (l : HwcLayer F) : HwcLayer F :=
  let frame := frameOf l.layer.dstRect
  (l.setLayerDisplayFrame
    (if l.geometryChanges &&& HwcLayer.kDisplayFrame ≠ 0 then scan frame else frame)).1

/-- What the display core needs of a solid fill. -/
def fillBuffer (layer : Layer F) : Layer F :=
  let width := toUInt32 layer.dstRect.width
  let height := toUInt32 layer.dstRect.height
  { layer with
    inputBuffer := { layer.inputBuffer with
      width := width
      height := height
      unalignedWidth := width
      unalignedHeight := height
      acquireFenceFd := -1
      releaseFenceFd := -1 }
    srcRect := ⟨ofUInt32 0, ofUInt32 0, ofUInt32 width, ofUInt32 height⟩ }

def fillLayer (l : HwcLayer F) : HwcLayer F :=
  if l.layer.flags.solidFill then { l with layer := fillBuffer l.layer } else l

/-- The highest rate that a layer asks for, as long as it is found on the way. -/
def rateLayer (d : HwcDisplay F) (rate : UInt32) (l : HwcLayer F) : HwcLayer F × UInt32 :=
  if rate < l.layer.frameRate then (l, d.sanitizeRefreshRate l.layer.frameRate)
  else ({ l with layer := { l.layer with frameRate := d.currentRefreshRate } }, rate)

/-- `IsLayerUpdating`, unless there are too many layers. -/
def setUpdating (d : HwcDisplay F) (geometry : UInt32) (l : HwcLayer F) : HwcLayer F :=
  { l with layer := { l.layer with flags := { l.layer.flags with
    updating := if d.layerSet.length ≤ kMaxLayerCount then
      l.layer.flags.singleBuffer || isSurfaceUpdated l.layer.dirtyRegions || decide (geometry ≠ 0)
    else true } } }

/-- The flags of the stack, with those of one more layer. -/
def addFlags (flags : LayerStackFlags) (l : HwcLayer F) (hdr : Bool) : LayerStackFlags :=
  let handle := l.layer.inputBuffer.bufferId
  { flags with
    videoPresent := flags.videoPresent || handle.elim false Handle.video
    securePresent := flags.securePresent || handle.elim false fun h => h.protectedBuffer || h.secureBuffer
    cursorPresent := flags.cursorPresent || l.layer.flags.cursor
    hdrPresent := flags.hdrPresent || hdr
    skipPresent := flags.skipPresent || l.layer.flags.skip }

/-- One layer in `BuildLayerStack`. -/
def buildLayer (d : HwcDisplay F) (scan : Frame → Frame) (b : Build F) (l : HwcLayer F) :
    HwcLayer F × Build F :=
  let dropped := d.dropAcquire (startBuild l)
  let marked := d.markLayer dropped.1
  let rated := d.rateLayer b.metadataRefreshRate (fillLayer (placeLayer scan marked))
  let geometry := b.geometryChanges ||| rated.1.geometryChanges
  (d.setUpdating geometry rated.1,
    { flags := addFlags b.flags marked (isHdrLayer marked && !d.disableHdrHandling)
      secureDisplayActive := b.secureDisplayActive || marked.layer.inputBuffer.secureDisplay
      metadataRefreshRate := rated.2
      displayRect := union b.displayRect rated.1.layer.dstRect
      geometryChanges := geometry
      closed := b.closed ++ dropped.2 })

end HwcDisplay

namespace Composer

/-- `MarkLayersForClientComposition`. -/
def markLayersForClientComposition (h : Composer F) : Option (Composer F) := do
  let layers ← mapLayers (fun l => { l with layer := { l.layer with
    flags := { l.layer.flags with skip := true } } }) h.display.layerSet h.display.layers
  return { h with display := { h.display with
    layers := layers
    layerStack := { h.display.layerStack with
      flags := { h.display.layerStack.flags with skipPresent := true } } } }

/-- `MarkLayersForGPUBypass`. -/
def markLayersForGPUBypass (h : Composer F) : Option (Composer F) := do
  let layers ← mapLayers (fun l => { l with layer := { l.layer with composition := .sde } })
    h.display.layerSet h.display.layers
  return { h with
    display := { h.display with layers := layers }
    validated := insert h.display.type h.validated }

/-- `SetSecureDisplay` of the three kinds of displays. -/
def setSecureDisplay (active : Bool) (h : Composer F) : Composer F :=
  if h.display.secureDisplayActive = active then h
  else
    match h.display.type with
    | .primary => { h with display := { h.display with
        secureDisplayActive := active
        skipPrepare := !h.display.isCmdMode
        secureDisplayTransition := true } }
    | .hdmi => { h with
        display := { h.display with secureDisplayActive := active }
        validated := if active then ∅ else h.validated }
    | .virtual => { h with display := { h.display with
        secureDisplayActive := active
        secureDisplayTransition := true
        skipPrepare := true } }

/-- The stack of all layers, with what was gathered on the way through them. -/
def stacked (h : Composer F) (layers : Layers F) (b : HwcDisplay.Build F) : Composer F :=
  let d := h.display
  { h with
    ledger := h.ledger.add { closed := b.closed }
    display := { d with
      layers := layers
      displayRect := b.displayRect
      metadataRefreshRate := b.metadataRefreshRate
      geometryChanges := b.geometryChanges
      layerStack := {
        layers := d.layerSet.map StackLayer.layer ++ [StackLayer.clientTarget]
        flags := { b.flags with
          fbtValid := d.fbtValid
          geometryChanged := decide (b.geometryChanges ≠ 0) } } } }

/-- A client target of ten bits makes the client compose all layers. -/
def composeTenBit (h : Composer F) : Option (Composer F) :=
  if is10BitFormat h.display.clientTarget.layer.inputBuffer.format then h.markLayersForClientComposition
  else some h

/-- `BuildLayerStack`. -/
def buildLayerStack (scan : Frame → Frame) (h : Composer F) : Option (Composer F) := do
  let (layers, b) ← forLayers (h.display.buildLayer scan) h.display.layerSet h.display.layers
    { flags := { animating := h.display.animating }, geometryChanges := h.display.geometryChanges }
  let h ← (h.stacked layers b).composeTenBit
  let h := h.setSecureDisplay b.secureDisplayActive
  return { h with display := { h.display with layerStackInvalid := false } }

/-- The layer that fills the mixer with one color. -/
def fillMixer (width height color : UInt32) (fill : Layer F) : Layer F :=
  let rect : LayerRect F := ⟨ofUInt32 0, ofUInt32 0, ofUInt32 width, ofUInt32 height⟩
  { fill with
    inputBuffer := { fill.inputBuffer with
      width := width
      height := height
      unalignedWidth := width
      unalignedHeight := height
      acquireFenceFd := -1
      releaseFenceFd := -1 }
    composition := .gpu
    srcRect := rect
    dstRect := rect
    blending := .blendingPremultiplied
    solidFillColor := color
    frameRate := 60
    visibleRegions := fill.visibleRegions ++ [rect]
    flags := { fill.flags with updating := true, solidFill := true } }

/-- `BuildSolidFillStack`. -/
def buildSolidFillStack (fill : Layer F) (h : Composer F) : Composer F :=
  { h with display := { h.display with
    solidFillLayer := some fill
    displayRect := .zero
    layerStack := {
      layers := [.solidFill, .clientTarget]
      flags := { geometryChanged := true } } } }

/-- `SolidFillPrepare`, for a mixer of the given size. -/
def solidFillPrepare (width height color : UInt32) (h : Composer F) : Option (Composer F) :=
  if h.display.solidFillEnable then
    let fill := fillMixer width height color (h.display.solidFillLayer.getD {})
    (h.buildSolidFillStack fill).markLayersForGPUBypass
  else some { h with display := { h.display with solidFillLayer := none } }

/-- What the display core answers to `Prepare`. -/
structure Prepared where
  error : DisplayError
  composition : LayerId → LayerComposition
  flipBuffer : Bool := false

/-- One layer after `Prepare`: the requests and the changes for the client. -/
def collectChange (b : List (LayerId × Composition) × List LayerId) (l : HwcLayer F) :
    HwcLayer F × (List (LayerId × Composition) × List LayerId) :=
  let requests :=
    match l.layer.composition with
    | .sde | .hybrid | .blit => (insertKey l.id () (b.2.map (·, ()))).map Prod.fst
    | _ => b.2
  let l := l.setComposition
  let changes := if l.clientRequested ≠ l.deviceSelected then insertKey l.id l.deviceSelected b.1 else b.1
  (l.resetValidation, (changes, requests))

/-- The end of `PrepareLayerStack`, where the client's answer is gathered. -/
def collectChanges (h : Composer F) : Option (Composer F × Error) := do
  let (layers, changes, requests) ←
    forLayers collectChange h.display.layerSet h.display.layers ([], [])
  return ({ h with display := { h.display with
      layers := layers
      layerChanges := changes
      layerRequests := requests
      clientTarget := h.display.clientTarget.resetValidation
      skipValidate := false } },
    if changes.isEmpty then .none else .hasChanges)

/-- `Prepare` of the display core writes its decision into the layers of the stack. -/
def prepare (answer : Prepared) (h : Composer F) : Option (Composer F) := do
  let layers ← mapLayers
    (fun l => { l with layer := { l.layer with composition := answer.composition l.id } })
    h.display.layerStack.ids h.display.layers
  return { h with display := { h.display with
    layers := layers
    clientTarget := { h.display.clientTarget with layer :=
      { h.display.clientTarget.layer with flipBuffer := answer.flipBuffer } } } }

/-- The changes of the frame before are forgotten. -/
def clearChanges (h : Composer F) : Composer F :=
  { h with display := { h.display with layerChanges := [], layerRequests := [] } }

/-- Instead of a validation, the next commit flushes. -/
def skipPrepared (h : Composer F) : Composer F :=
  { h with display := { h.display with skipPrepare := false, flush := true } }

/-- The result of `Prepare`. -/
def afterPrepare (error : DisplayError) (h : Composer F) : Option (Composer F × Error) :=
  match error with
  | .none => collectChanges { h with validated := insert h.display.type h.validated }
  | .shutDown => some ({ h with display := { h.display with shutdownPending := true } }, .badDisplay)
  | .permission => some (h, .badDisplay)
  | .notValidated | .other => some ({ h with display := { h.display with flush := true } }, .badDisplay)

/-- `PrepareLayerStack`. -/
def prepareLayerStack (answer : Prepared) (h : Composer F) : Option (Composer F × Error) :=
  let h := h.clearChanges
  if h.display.shutdownPending then some (h, .badDisplay)
  else if h.display.skipPrepare then h.markLayersForGPUBypass.bind fun h => h.skipPrepared.collectChanges
  else (h.prepare answer).bind (afterPrepare answer.error)

/-- `GetOptimalRefreshRate`. -/
def optimalRefreshRate (d : HwcDisplay F) (oneUpdatingLayer : Bool) : UInt32 :=
  if d.forceRefreshRate ≠ 0 then d.forceRefreshRate
  else if d.handleIdleTimeout then d.minRefreshRate
  else if d.useMetadataRefreshRate && oneUpdatingLayer && decide (d.metadataRefreshRate ≠ 0) then
    d.metadataRefreshRate
  else d.maxRefreshRate

/-- Whether a layer of the stack is updating. -/
def isUpdating (d : HwcDisplay F) : StackLayer → Bool
  | .layer id => (d.layers id).elim false fun l => l.layer.flags.updating
  | .clientTarget => d.clientTarget.layer.flags.updating
  | .solidFill => d.solidFillLayer.elim false fun l => l.flags.updating

/-- The refresh rate, in `Validate` of the primary display. -/
def chooseRefreshRate (accepted : Bool) (h : Composer F) : Composer F :=
  let d := h.display
  let rate := optimalRefreshRate d ((d.layerStack.layers.filter (isUpdating d)).length == 1)
  let ok := if d.currentRefreshRate ≠ rate || d.handleIdleTimeout then accepted else true
  { h with display := { d with
    currentRefreshRate := if ok then rate else d.currentRefreshRate
    handleIdleTimeout := false } }

/-- What `Validate` depends on: the answers, the size of the mixer and the scan of the display. -/
structure Validation where
  prepared : Prepared
  refreshRateAccepted : Bool := true
  scan : Frame → Frame := id
  mixerWidth : UInt32 := 0
  mixerHeight : UInt32 := 0
  solidFillColor : UInt32 := 0

/-- A color transform that failed makes the client compose all layers. -/
def composeFailedTransform (h : Composer F) : Option (Composer F) :=
  if h.display.colorTransformFailed then h.markLayersForClientComposition else some h

/-- The bypass of a display that shows nothing for now. -/
def bypass (h : Composer F) : Option (Composer F × Error) := h.markLayersForGPUBypass.map (·, .none)

/-- The end of `HWCDisplayPrimary::Validate`. Without layers, `validated_ = true` is the number one: the
bit of the primary display and no other. -/
def finishPrimary (answer : Prepared) (h : Composer F) : Option (Composer F × Error) :=
  if h.display.layerSet.isEmpty then
    some ({ h with
      display := { h.display with flush := !(h.display.isCmdMode && h.display.secureDisplayActive) }
      validated := {.primary} }, .none)
  else h.prepareLayerStack answer

/-- `HWCDisplayPrimary::Validate`. -/
def validatePrimary (v : Validation) (h : Composer F) : Option (Composer F × Error) :=
  if h.display.displayPaused then h.bypass
  else do
    let h ← h.buildLayerStack v.scan
    let h ← h.composeFailedTransform
    let h ← h.solidFillPrepare v.mixerWidth v.mixerHeight v.solidFillColor
    (h.chooseRefreshRate v.refreshRateAccepted).finishPrimary v.prepared

/-- The end of `Validate` of the other displays. -/
def finishOther (answer : Prepared) (flush : Bool) (h : Composer F) : Option (Composer F × Error) :=
  if h.display.layerSet.isEmpty then some ({ h with display := { h.display with flush := flush } }, .none)
  else h.prepareLayerStack answer

/-- `HWCDisplayExternal::Validate`. -/
def validateExternal (v : Validation) (h : Composer F) : Option (Composer F × Error) :=
  if h.display.secureDisplayActive then h.bypass
  else do
    let h ← h.buildLayerStack v.scan
    h.finishOther v.prepared true

/-- `HWCDisplayVirtual::Validate`. -/
def validateVirtual (v : Validation) (h : Composer F) : Option (Composer F × Error) :=
  if h.display.displayPaused then h.bypass
  else do
    let h ← h.buildLayerStack v.scan
    h.finishOther v.prepared h.display.flush

/-- `Validate`. -/
def validate (v : Validation) (h : Composer F) : Option (Composer F × Error) :=
  match h.display.type with
  | .primary => h.validatePrimary v
  | .hdmi => h.validateExternal v
  | .virtual => h.validateVirtual v

/-- `CanSkipValidate`. -/
def canSkipValidate (toneMapperActive : Bool) (h : Composer F) : Bool :=
  let d := h.display
  !(d.layerStack.flags.hdrPresent && toneMapperActive) && !d.clientTarget.needsValidation &&
    d.layerSet.all fun id => (d.layers id).elim true fun l =>
      !l.needsValidation && decide (l.deviceSelected ≠ .client)

/-- What the display core answers to `Commit`, with its fences, and the state of the tone mapper. -/
structure Committed where
  error : DisplayError
  releaseFence : LayerId → Int
  clientTargetFence : Int := -1
  solidFillFence : Int := -1
  retireFence : Int := -1
  toneMapperActive : Bool := false

/-- A fill gets its fence if it is in the stack. -/
def commitFill (answer : Committed) (d : HwcDisplay F) : Option (Layer F) :=
  if StackLayer.solidFill ∈ d.layerStack.layers then
    d.solidFillLayer.map fun fill => { fill with
      inputBuffer := { fill.inputBuffer with releaseFenceFd := answer.solidFillFence } }
  else d.solidFillLayer

/-- The fences of a frame. -/
def commitFences (answer : Committed) (d : HwcDisplay F) : List Int :=
  d.layerStack.ids.map answer.releaseFence ++ [answer.clientTargetFence] ++ [answer.retireFence] ++
    if StackLayer.solidFill ∈ d.layerStack.layers then [answer.solidFillFence] else []

/-- `Commit` of the display core writes its fences into the layers of the stack. -/
def commit (answer : Committed) (h : Composer F) : Option (Composer F) := do
  let d := h.display
  let layers ← mapLayers (fun l => { l with layer := { l.layer with
    inputBuffer := { l.layer.inputBuffer with releaseFenceFd := answer.releaseFence l.id } } })
    d.layerStack.ids d.layers
  return { h with
    ledger := h.ledger.add { received := commitFences answer d }
    display := { d with
      layers := layers
      clientTarget := { d.clientTarget with layer := { d.clientTarget.layer with
        inputBuffer := { d.clientTarget.layer.inputBuffer with
          releaseFenceFd := answer.clientTargetFence } } }
      solidFillLayer := commitFill answer d
      layerStack := { d.layerStack with retireFenceFd := answer.retireFence } } }

/-- A frame without a validation of its own is refused if anything has changed. -/
def checkSkip (toneMapperActive : Bool) (h : Composer F) : Composer F :=
  if h.display.skipValidate && !h.canSkipValidate toneMapperActive then
    { h with validated := h.validated.erase h.display.type }
  else h

/-- The result of `Commit`. -/
def afterCommit (error : DisplayError) (h : Composer F) : Composer F × Error :=
  match error with
  | .none => ({ h with display := { h.display with flushOnError := true, skipValidate := true } }, .none)
  | .shutDown => ({ h with display := { h.display with shutdownPending := true } }, .unsupported)
  | .notValidated => ({ h with validated := h.validated.erase h.display.type }, .notValidated)
  | .permission => ({ h with display := { h.display with skipValidate := true } }, .none)
  | .other => ({ h with display := { h.display with flush := true, skipValidate := true } }, .none)

/-- `CommitLayerStack`, of a display without a frame dump and without tone mapping. -/
def commitLayerStack (answer : Committed) (h : Composer F) : Option (Composer F × Error) :=
  if h.display.flush then some (h, .none)
  else
    let h := h.checkSkip answer.toneMapperActive
    if h.display.type ∉ h.validated then some (h, .notValidated)
    else if h.display.shutdownPending || h.display.layerSet.isEmpty then some (h, .none)
    else (h.commit answer).map (afterCommit answer.error)

/-- The release fence of a layer goes to the client or is closed. -/
def releaseLayer (flush swapIntervalZero : Bool) (l : HwcLayer F) : HwcLayer F × List Int :=
  let fence := l.layer.inputBuffer.releaseFenceFd
  let dropped := { l with layer := { l.layer with
    inputBuffer := { l.layer.inputBuffer with releaseFenceFd := -1 } } }
  if flush then (dropped.pushReleaseFence (-1), [])
  else if swapIntervalZero || l.layer.flags.singleBuffer then (dropped, [fence])
  else if l.layer.composition ≠ .gpu then (dropped.pushReleaseFence fence, [])
  else (dropped.pushReleaseFence (-1), [])

/-- The acquire fence of a layer is closed. -/
def closeAcquire (closed : List Int) (l : HwcLayer F) : HwcLayer F × List Int :=
  let acquire := l.layer.inputBuffer.acquireFenceFd
  if 0 ≤ acquire then
    ({ l with layer := { l.layer with
      inputBuffer := { l.layer.inputBuffer with acquireFenceFd := -1 } } }, closed ++ [acquire])
  else (l, closed)

/-- One layer in `PostCommitLayerStack`. -/
def postCommitLayer (flush swapIntervalZero : Bool) (closed : List Int) (l : HwcLayer F) :
    HwcLayer F × List Int :=
  let released := releaseLayer flush swapIntervalZero l.resetGeometryChanges
  let r := closeAcquire (closed ++ released.2) released.1
  ({ r.1 with layer := { r.1.layer with flipBuffer := false } }, r.2)

/-- `Flush`, after an error. -/
def flushFrame (h : Composer F) : Composer F :=
  if h.display.flush && h.display.flushOnError then
    { h with
      display := { h.display with secureDisplayTransition := false, flushOnError := false }
      validated := h.validated.erase h.display.type }
  else h

/-- The release fence of the client target is closed. -/
def dropTargetFence (target : HwcLayer F) : HwcLayer F × List Int :=
  let fence := target.layer.inputBuffer.releaseFenceFd
  ({ target with
      geometryChanges := 0
      layer := { target.layer with
        flipBuffer := false
        inputBuffer := { target.layer.inputBuffer with
          releaseFenceFd := if 0 ≤ fence then -1 else fence } } },
    if 0 ≤ fence then [fence] else [])

/-- The state after all layers of the frame, and the retire fence. -/
def endFrame (h : Composer F) (layers : Layers F) (closed : List Int) : Composer F × Int :=
  let d := h.display
  let retire := d.layerStack.retireFenceFd
  let out := if d.flush || d.swapIntervalZero then -1 else retire
  ({ h with
      ledger := h.ledger.add
        { closed := if !d.flush && d.swapIntervalZero then closed ++ [retire] else closed
          handed := [out] }
      display := { d with
        layers := layers
        clientTarget := (dropTargetFence d.clientTarget).1
        layerStack := { d.layerStack with retireFenceFd := if d.flush then retire else -1 }
        geometryChanges := 0
        flush := false } },
    out)

/-- `PostCommitLayerStack`, with the retire fence, of a display without a frame dump and without tone
mapping. -/
def postCommitLayerStack (h : Composer F) : Option (Composer F × Int) :=
  let h := h.flushFrame
  let d := h.display
  (forLayers (postCommitLayer d.flush d.swapIntervalZero) d.layerSet d.layers
    (dropTargetFence d.clientTarget).2).map fun r => h.endFrame r.1 r.2

/-- `SolidFillCommit`. -/
def solidFillCommit (h : Composer F) : Composer F :=
  let d := h.display
  match d.solidFillLayer with
  | some fill =>
    if d.solidFillEnable then
      let fence := fill.inputBuffer.releaseFenceFd
      let retire := d.layerStack.retireFenceFd
      { h with
        ledger := h.ledger.add { closed :=
          (if 0 < fence then [fence] else []) ++ if 0 < retire then [retire] else [] }
        display := { d with
          solidFillLayer := some { fill with inputBuffer :=
            { fill.inputBuffer with releaseFenceFd := if 0 < fence then -1 else fence } }
          layerStack := { d.layerStack with retireFenceFd := if 0 < retire then -1 else retire } } }
    else h
  | none => h

/-- The client target comes last. -/
def closeTarget (h : Composer F) (layers : Layers F) (closed : List Int) : Composer F :=
  { h with
    ledger := h.ledger.add { closed := (closeAcquire closed h.display.clientTarget).2 }
    display := { h.display with
      layers := layers
      clientTarget := (closeAcquire closed h.display.clientTarget).1 } }

/-- `CloseAcquireFds`. -/
def closeAcquireFds (h : Composer F) : Option (Composer F) :=
  (forLayers closeAcquire h.display.layerSet h.display.layers []).map fun r => h.closeTarget r.1 r.2

/-- Whether a display shows nothing for now: the external one during a secure display, and the others
while they are paused. -/
def idle (d : HwcDisplay F) : Bool :=
  match d.type with
  | .hdmi => d.secureDisplayActive
  | .primary | .virtual => d.displayPaused

/-- What follows a frame that was handed over. -/
def afterFrame (h : Composer F) : Option (Composer F × Int) :=
  (if h.display.type = .primary then h.solidFillCommit else h).postCommitLayerStack

/-- A frame of a display that shows something. -/
def presentFrame (answer : Committed) (h : Composer F) : Option (Composer F × Error × Option Int) :=
  (h.commitLayerStack answer).bind fun r =>
    if r.2 = .none then r.1.afterFrame.map fun p => (p.1, .none, some p.2) else some (r.1, r.2, none)

/-- `Present` of the three kinds of displays, with the retire fence if there is one. -/
def present (answer : Committed) (h : Composer F) : Option (Composer F × Error × Option Int) :=
  (if idle h.display then some (h, Error.none, none) else h.presentFrame answer).bind fun r =>
    r.1.closeAcquireFds.map fun h => (h, r.2)

/-- `CreateLayer`, with the number of the layer. -/
def createLayer (h : Composer F) : Composer F × LayerId :=
  let d := h.display
  let id := h.nextId
  let layers := Function.update d.layers id (some { id := id })
  ({ h with
      nextId := id + 1
      validated := ∅
      display := { d with
        layers := layers
        layerSet := emplace (Layers.z layers) id d.layerSet
        -- `emplace` of the map leaves an entry that is there.
        layerMap := if (d.layerMap id).isSome then d.layerMap
          else Function.update d.layerMap id (some (some id))
        geometryChanges := d.geometryChanges ||| HwcLayer.kAdded
        layerStackInvalid := true } },
    id)

/-- The search for a layer in the set, through the range of those as deep as it. Only a set without layers
is searched without following a pointer. -/
def findInSet (d : HwcDisplay F) (pointer : Option LayerId) : Option (Option (LayerId × HwcLayer F)) :=
  if d.layerSet.isEmpty then some none
  else do
    let target ← pointer
    let l ← d.layers target
    if d.layerSet.all fun id => (d.layers id).isSome then
      let range := d.layerSet.filter fun id => Layers.z d.layers id = l.z
      some (if target ∈ range then some (target, l) else none)
    else none

/-- What the destructor of a layer closes: its release fences and its buffer. -/
def closings (l : HwcLayer F) : List Int := l.releaseFences ++ [l.ionFd]

/-- A layer is taken out of the set and deleted. -/
def deleteLayer (h : Composer F) (target : LayerId) (l : HwcLayer F) : Composer F :=
  { h with
    ledger := h.ledger.add { closed := closings l }
    display := { h.display with
      layers := Function.update h.display.layers target none
      layerSet := h.display.layerSet.erase target } }

/-- The entry of the map is erased. -/
def unmapLayer (h : Composer F) (id : LayerId) : Composer F :=
  { h with
    validated := ∅
    display := { h.display with
      layerMap := Function.update h.display.layerMap id none
      geometryChanges := h.display.geometryChanges ||| HwcLayer.kRemoved
      layerStackInvalid := true } }

/-- `DestroyLayer`. -/
def destroyLayer (id : LayerId) (h : Composer F) : Option (Composer F × Error) :=
  match h.display.layerMap id with
  | none => some (h, .badLayer)
  | some pointer => (findInSet h.display pointer).map fun
    | none => (h.unmapLayer id, .none)
    | some (target, l) => ((h.deleteLayer target l).unmapLayer id, .none)

/-- A layer is taken out of the set, moved and put back. -/
def moveLayer (h : Composer F) (target : LayerId) (l : HwcLayer F) (z : UInt32) : Composer F :=
  let layers := Function.update h.display.layers target (some (l.setLayerZOrder z))
  { h with display := { h.display with
    layers := layers
    layerSet := emplace (Layers.z layers) target (h.display.layerSet.erase target) } }

/-- `SetLayerZOrder`. -/
def setLayerZOrder (id : LayerId) (z : UInt32) (h : Composer F) : Option (Composer F × Error) :=
  match h.display.layerMap id with
  | none => some (h, .badLayer)
  | some pointer => (findInSet h.display pointer).map fun
    | none => (h, .badLayer)
    | some (target, l) => if l.z = z then (h, .none) else (h.moveLayer target l z, .none)

/-- The layer after a call, and the descriptors it has handled; a display with changes of its own takes the
validation back. -/
def writeLayer (h : Composer F) (target : LayerId) (l : HwcLayer F) (descriptors : Ledger) : Composer F :=
  { h with
    ledger := h.ledger.add descriptors
    validated := if h.display.geometryChanges ≠ 0 then ∅ else h.validated
    display := { h.display with layers := Function.update h.display.layers target (some l) } }

/-- A call of a layer function through the session. -/
def callLayerFunction (current : Int → Int) (id : LayerId) (call : LayerCall F) (h : Composer F) :
    Option (Composer F × Error) :=
  match h.display.layerMap id with
  | none => some (h, .badLayer)
  | some none => some (h, .badLayer)
  | some (some target) => (h.display.layers target).map fun l =>
      let r := call.run current l
      (h.writeLayer target r.1 r.2.1, r.2.2)

/-- `AcceptDisplayChanges`: looking a change up enters its number into the map. -/
def acceptChange (d : HwcDisplay F) (change : LayerId × Composition) : Option (HwcDisplay F) :=
  match d.layerMap change.1 with
  | some (some target) => do
    let l ← d.layers target
    return { d with layers := Function.update d.layers target (some { l with clientRequested := change.2 }) }
  | some none => some d
  | none => some { d with layerMap := Function.update d.layerMap change.1 (some none) }

/-- `AcceptDisplayChanges`. -/
def acceptDisplayChanges (h : Composer F) : Option (Composer F × Error) := do
  if h.display.layerSet.isEmpty then return (h, .none)
  else if h.display.type ∉ h.validated then return (h, .notValidated)
  else return ({ h with display := ← h.display.layerChanges.foldlM acceptChange h.display }, .none)

/-- `GetChangedCompositionTypes`. -/
def getChangedCompositionTypes (h : Composer F) : List (LayerId × Composition) × Error :=
  if h.display.layerSet.isEmpty then ([], .none)
  else if h.display.type ∉ h.validated then ([], .notValidated)
  else (h.display.layerChanges, .none)

/-- One layer in `GetReleaseFences`. -/
def takeFence (out : List (LayerId × Int)) (l : HwcLayer F) : HwcLayer F × List (LayerId × Int) :=
  let (l', fence) := l.popReleaseFence
  (l', out ++ [(l.id, fence)])

/-- The fences of all layers go to the client. -/
def handFences (h : Composer F) (layers : Layers F) (out : List (LayerId × Int)) : Composer F :=
  { h with
    ledger := h.ledger.add { handed := out.map Prod.snd }
    display := { h.display with layers := layers } }

/-- `GetReleaseFences`, with room for the answer. -/
def getReleaseFences (h : Composer F) : Option (Composer F × List (LayerId × Int)) :=
  (forLayers takeFence h.display.layerSet h.display.layers []).map fun r => (h.handFences r.1 r.2, r.2)

/-- The damage and the dataspace of the client target. -/
def damageTarget (current : Int → Int) (dataspace : Int) (damage : List Frame) (l : HwcLayer F) : HwcLayer F :=
  let l := (l.setLayerSurfaceDamage damage).1
  if l.dataspace ≠ dataspace then (l.setLayerDataspace current dataspace).1 else l

/-- `SetClientTarget`. -/
def setClientTarget (current : Int → Int) (dup : Int) (target : Option (Handle F)) (acquireFence : Int)
    (dataspace : Int) (damage : List Frame) (h : Composer F) : Composer F × Error :=
  if target.isNone then (h, .none)
  else if acquireFence = 0 then (h, .badParameter)
  else
    let r := h.display.clientTarget.setLayerBuffer dup target acquireFence
    ({ h with
      ledger := h.ledger.add r.2.1
      display := { h.display with
        clientTarget := damageTarget current dataspace damage r.1
        fbtValid := true } }, .none)

/-- `HWC2::PowerMode`. -/
inductive PowerMode
  | off
  | on
  | doze
  | dozeSuspend
  | other
  deriving DecidableEq

/-- `SetPowerMode`, with the answer of the display core. -/
def setPowerMode (mode : PowerMode) (error : DisplayError) (h : Composer F) : Composer F × Error :=
  if h.display.shutdownPending then (h, .none)
  else if mode = .other then (h, .badParameter)
  else
    let flushOnError := if mode = .off then false else h.display.flushOnError
    let h := { h with validated := ∅ }
    match error with
    | .none => ({ h with display := { h.display with flushOnError := flushOnError } }, .none)
    | .shutDown => ({ h with display := { h.display with shutdownPending := true } }, .none)
    | _ => (h, .badParameter)

/-- `ToggleScreenUpdates`. -/
def toggleScreenUpdates (enable : Bool) (h : Composer F) : Composer F :=
  { h with display := { h.display with displayPaused := !enable }, validated := ∅ }

/-- `SetDisplayStatus`: online, offline, resumed or paused. -/
inductive DisplayStatus
  | offline
  | online
  | pause
  | resume
  deriving DecidableEq

def setDisplayStatus (status : DisplayStatus) (error : DisplayError) (h : Composer F) : Composer F :=
  match status with
  | .resume =>
    let h := { h with display := { h.display with displayPaused := false, fbtValid := false } }
    { (h.setPowerMode .on error).1 with validated := ∅ }
  | .online => (h.setPowerMode .on error).1
  | .pause =>
    let h := { h with display := { h.display with displayPaused := true } }
    { (h.setPowerMode .off error).1 with validated := ∅ }
  | .offline => (h.setPowerMode .off error).1

/-- `SetColorTransform` of the primary display, which fails or not. -/
def setColorTransform (identity ok : Bool) (h : Composer F) : Composer F × Error :=
  if !identity && !ok then
    ({ h with display := { h.display with colorTransformFailed := true } }, .unsupported)
  else
    ({ h with display := { h.display with colorTransformFailed := false }, validated := ∅ },
      if ok then .none else .unsupported)

/-- `ForceRefreshRate`, through `Perform`. -/
def forceRefreshRate (rate : UInt32) (h : Composer F) : Composer F :=
  let d := h.display
  let refused := (rate ≠ 0 && (rate < d.minRefreshRate || d.maxRefreshRate < rate)) || d.forceRefreshRate = rate
  { h with display := if refused then d else { d with forceRefreshRate := rate }, validated := ∅ }

/-- `Refresh`, which only the primary display has. -/
def refresh (h : Composer F) : Composer F :=
  if h.display.type = .primary then { h with display := { h.display with handleIdleTimeout := true } } else h

end Composer

end Yoshino.Hwc
