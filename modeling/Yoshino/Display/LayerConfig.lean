import Yoshino.Display.Rects

/-!
# What a framebuffer layer asks of the pipes

`Config` checks the layer of a frame and writes the two pipe configurations: which part of the layer
each of the pipes fetches and where it goes. A check that fails late leaves what was written before it.
-/

namespace Yoshino.Display

open FloatArith

/-- The errors of the resource manager; `kErrorNone` is a return without an error. -/
inductive DisplayError
  | notSupported
  | parameters
  | resources
  deriving DecidableEq, Repr

/-- `LayerBufferFormat`. -/
inductive LayerBufferFormat
  | argb8888 | rgba8888 | bgra8888 | xrgb8888 | rgbx8888 | bgrx8888
  | rgba5551 | rgba4444 | rgb888 | bgr888 | rgb565 | bgr565
  | rgba8888Ubwc | rgbx8888Ubwc | bgr565Ubwc
  | rgba1010102 | argb2101010 | rgbx1010102 | xrgb2101010
  | bgra1010102 | abgr2101010 | bgrx1010102 | xbgr2101010
  | rgba1010102Ubwc | rgbx1010102Ubwc | rgb101010
  | ycbcr420Planar | ycrcb420Planar | ycrcb420PlanarStride16
  | ycbcr420SemiPlanar | ycrcb420SemiPlanar | ycbcr420SemiPlanarVenus
  | ycbcr422H1V2SemiPlanar | ycrcb422H1V2SemiPlanar
  | ycbcr422H2V1SemiPlanar | ycrcb422H2V1SemiPlanar
  | ycbcr420SPVenusUbwc | ycrcb420SemiPlanarVenus
  | ycbcr420P010 | ycbcr420TP10Ubwc | ycbcr420P010Ubwc
  | ycbcr422H2V1Packed | cbycry422H2V1Packed
  | invalid
  deriving DecidableEq, Repr

/-- `BufferLayout`. -/
inductive BufferLayout
  | linear
  | ubwc
  | tpTiled
  deriving DecidableEq, Repr

/-- `IsUBWCFormat`. -/
def isUBWCFormat : LayerBufferFormat → Bool
  | .rgba8888Ubwc | .rgbx8888Ubwc | .bgr565Ubwc | .ycbcr420SPVenusUbwc
  | .rgba1010102Ubwc | .rgbx1010102Ubwc | .ycbcr420TP10Ubwc | .ycbcr420P010Ubwc => true
  | _ => false

/-- `GetBufferLayout`. -/
def getBufferLayout : LayerBufferFormat → BufferLayout
  | .ycbcr420TP10Ubwc => .tpTiled
  | format => if isUBWCFormat format then .ubwc else .linear

/-- `LayerComposition`. -/
inductive LayerComposition
  | gpu | gpuS3D | sde | hwCursor | hybrid | blit | gpuTarget | blitTarget
  deriving DecidableEq, Repr

/-- What is read of a `Layer`. -/
structure Layer (F : Type) where
  composition : LayerComposition := .gpu
  format : LayerBufferFormat := .rgba8888
  secure : Bool := false
  srcRect : LayerRect F
  dstRect : LayerRect F

/-- `PipeType`. -/
inductive PipeType
  | unused | vig | rgb | dma | cursor
  deriving DecidableEq, Repr

/-- `HWPipeCaps`. -/
structure HWPipeCaps where
  type : PipeType := .unused
  id : UInt32 := 0
  deriving DecidableEq, Repr

/-- What is read of `HWResourceInfo`. -/
structure HWResourceInfo where
  numDmaPipe : Nat := 0
  numVigPipe : Nat := 0
  numRgbPipe : Nat := 0
  maxScaleUp : UInt32 := 1
  maxScaleDown : UInt32 := 1
  maxPipeWidth : UInt32 := 2048
  hasDecimation : Bool := false
  hasNonScalarRgb : Bool := false
  isSrcSplit : Bool := false
  /-- The hardware pipe table. -/
  hwPipes : List HWPipeCaps := []

/-- What is read of `HWMixerAttributes`. -/
structure HWMixerAttributes where
  width : UInt32 := 0
  height : UInt32 := 0
  splitLeft : UInt32 := 0

/-- What is read or written of an `HWPipeInfo`. -/
structure HWPipeInfo (F : Type) where
  pipeId : UInt32
  srcRoi : LayerRect F
  dstRoi : LayerRect F
  horizontalDecimation : UInt8
  verticalDecimation : UInt8
  zOrder : UInt32
  valid : Bool

/-- `HWLayerConfig`: one pipe for each side of the output. -/
structure HWLayerConfig (F : Type) where
  leftPipe : HWPipeInfo F
  rightPipe : HWPipeInfo F

variable {F : Type} [FloatArith F]

/-- A pipe configuration as it is constructed. -/
def HWPipeInfo.empty : HWPipeInfo F := ⟨0, .zero, .zero, 0, 0, 0, false⟩

/-- `ValidateLayerParams`. -/
def validateLayerParams (layer : Layer F) : Except DisplayError Unit :=
  let fractional (x : F) : Bool := x - roundf x != ofUInt32 0
  let src := layer.srcRect
  if layer.format = .invalid then throw .notSupported
  else if !src.isValid || !layer.dstRect.isValid then throw .notSupported
  else if !layer.secure &&
      (fractional src.left || fractional src.top || fractional src.right || fractional src.bottom) then
    throw .notSupported
  else pure ()

/-- `ValidateDimensions`: shrinking by one pixel is refused. -/
def validateDimensions (crop dst : LayerRect F) : Except DisplayError Unit :=
  if !crop.isValid then throw .notSupported
  else if !dst.isValid then throw .notSupported
  else if toUInt32 (crop.width - dst.width) = 1 || toUInt32 (crop.height - dst.height) = 1 then
    throw .notSupported
  else pure ()

/-- `kMaxDecimationDownScaleRatio`. -/
def maxDecimationDownScaleRatio : UInt32 := 16

/-- `ValidateDownScaling`. -/
def validateDownScaling (info : HWResourceInfo) (scaleX scaleY : F) (ubwcTiled : Bool) :
    Except DisplayError Unit :=
  if 1 < toUInt32 scaleX || 1 < toUInt32 scaleY then
    let maxScaleDown : F := ofUInt32 info.maxScaleDown
    -- decimation does not work on a tiled framebuffer
    let maxScaleDown :=
      if !ubwcTiled && info.hasDecimation then maxScaleDown * ofUInt32 maxDecimationDownScaleRatio
      else maxScaleDown
    if maxScaleDown < scaleX || maxScaleDown < scaleY then throw .notSupported else pure ()
  else pure ()

/-- `ValidateUpScaling`. -/
def validateUpScaling (info : HWResourceInfo) (scaleX scaleY : F) : Except DisplayError Unit :=
  let exceeds (scale : F) : Bool :=
    toUInt32 scale < 1 && ofUInt32 0 < scale && ofUInt32 info.maxScaleUp < ofUInt32 1 / scale
  if exceeds scaleX then throw .notSupported
  else if exceeds scaleY then throw .notSupported
  else pure ()

/-- `ValidateScaling`, with `GetScaleFactor`. -/
def validateScaling (info : HWResourceInfo) (crop dst : LayerRect F) (layout : BufferLayout) :
    Except DisplayError Unit := do
  let scaleX := crop.width / dst.width
  let scaleY := crop.height / dst.height
  validateDownScaling info scaleX scaleY (layout ≠ .linear)
  validateUpScaling info scaleX scaleY

/-- `ValidatePipeParams`. -/
def validatePipeParams (info : HWResourceInfo) (pipe : HWPipeInfo F) (format : LayerBufferFormat) :
    Except DisplayError Unit := do
  validateDimensions pipe.srcRoi pipe.dstRoi
  validateScaling info pipe.srcRoi pipe.dstRoi (getBufferLayout format)

/-- `SrcSplitConfig`: a layer that is wider than a pipe is split into two. -/
def srcSplitConfig (info : HWResourceInfo) (srcRect dstRect : LayerRect F) (c : HWLayerConfig F) :
    HWLayerConfig F :=
  let maxPipeWidth : F := ofUInt32 info.maxPipeWidth
  if maxPipeWidth < srcRect.width || maxPipeWidth < dstRect.width then
    let split := splitRect srcRect dstRect
    { leftPipe := { c.leftPipe with srcRoi := split.srcLeft, dstRoi := split.dstLeft, valid := true }
      rightPipe :=
        { c.rightPipe with srcRoi := split.srcRight, dstRoi := split.dstRight, valid := true } }
  else
    { leftPipe := { c.leftPipe with srcRoi := srcRect, dstRoi := dstRect, valid := true }
      rightPipe := .empty }

/-- `DisplaySplitConfig`: each side of the mixer gets a pipe if the layer reaches into it. -/
def displaySplitConfig (mixer : HWMixerAttributes) (srcRect dstRect : LayerRect F) :
    HWLayerConfig F :=
  let scissorLeft : LayerRect F :=
    { (.zero : LayerRect F) with right := ofUInt32 mixer.splitLeft, bottom := ofUInt32 mixer.height }
  let scissorRight : LayerRect F :=
    { left := ofUInt32 mixer.splitLeft
      top := ofUInt32 0
      right := ofUInt32 mixer.width
      bottom := ofUInt32 mixer.height }
  let (cropLeftValid, cropLeft, dstLeft) := calculateCropRects scissorLeft srcRect dstRect
  let (cropRightValid, cropRight, dstRight) :=
    if scissorRight.isValid then calculateCropRects scissorRight srcRect dstRect
    else (false, srcRect, dstRect)
  let pipe (valid : Bool) (srcRoi dstRoi : LayerRect F) : HWPipeInfo F :=
    if valid then { (.empty : HWPipeInfo F) with srcRoi, dstRoi, valid := true } else .empty
  { leftPipe := pipe cropLeftValid cropLeft dstLeft
    rightPipe := pipe cropRightValid cropRight dstRight }

/-- `AlignPipeConfig`: the right pipe begins where the left one ends. -/
def alignPipeConfig (info : HWResourceInfo) (format : LayerBufferFormat) (c : HWLayerConfig F) :
    Except DisplayError Unit × HWLayerConfig F :=
  if !c.leftPipe.valid then (throw .notSupported, c)
  else match validatePipeParams info c.leftPipe format with
    | .error e => (throw e, c)
    | .ok () =>
      if c.rightPipe.valid then
        let rightPipe :=
          { c.rightPipe with
            srcRoi := { c.rightPipe.srcRoi with left := c.leftPipe.srcRoi.right }
            dstRoi := { c.rightPipe.dstRoi with left := c.leftPipe.dstRoi.right } }
        (validatePipeParams info rightPipe format, { c with rightPipe })
      else (pure (), c)

/-- The checks of `Config` before it writes anything. -/
def checkLayer (info : HWResourceInfo) (layer : Layer F) : Except DisplayError Unit := do
  validateLayerParams layer
  validateDimensions layer.srcRect layer.dstRect
  validateScaling info layer.srcRect layer.dstRect (getBufferLayout layer.format)

/-- `Config`: whether the layer is accepted, and the configuration written. -/
def config (info : HWResourceInfo) (mixer : HWMixerAttributes) (layer : Layer F)
    (c : HWLayerConfig F) : Except DisplayError Unit × HWLayerConfig F :=
  match checkLayer info layer with
  | .error e => (throw e, c)
  | .ok () =>
    let split :=
      if info.isSrcSplit then srcSplitConfig info layer.srcRect layer.dstRect c
      else displaySplitConfig mixer layer.srcRect layer.dstRect
    match alignPipeConfig info layer.format split with
    | (.error e, c) => (throw e, c)
    | (.ok (), c) =>
      let leftPipe := { c.leftPipe with zOrder := 0 }
      let rightPipe := if c.rightPipe.valid then { c.rightPipe with zOrder := 0 } else c.rightPipe
      (pure (), { leftPipe, rightPipe })

/-- `CalculateDecimation`. -/
def calculateDecimation (info : HWResourceInfo) (downscale : F) : Except DisplayError UInt8 :=
  let maxDownScale : F := ofUInt32 info.maxScaleDown
  if downscale ≤ maxDownScale then pure 0
  else if !info.hasDecimation then throw .notSupported
  else pure (toUInt8 (ceilf (log2f (downscale / maxDownScale))))

/-- `SetDecimationFactor`. -/
def setDecimationFactor (info : HWResourceInfo) (pipe : HWPipeInfo F) :
    Except DisplayError Unit × HWPipeInfo F :=
  let pipe := { pipe with horizontalDecimation := 0, verticalDecimation := 0 }
  match calculateDecimation info (pipe.srcRoi.width / pipe.dstRoi.width) with
  | .error _ => (throw .notSupported, pipe)
  | .ok horizontalDecimation =>
    let pipe := { pipe with horizontalDecimation }
    match calculateDecimation info (pipe.srcRoi.height / pipe.dstRoi.height) with
    | .error _ => (throw .notSupported, pipe)
    | .ok verticalDecimation => (pure (), { pipe with verticalDecimation })

/-- `IsScalingNeeded`. -/
def isScalingNeeded (pipe : HWPipeInfo F) : Bool :=
  pipe.dstRoi.width != pipe.srcRoi.width || pipe.dstRoi.height != pipe.srcRoi.height

/-- A configuration that aligns has a left pipe. -/
theorem alignPipeConfig_valid {info : HWResourceInfo} {format : LayerBufferFormat}
    {c c' : HWLayerConfig F} (h : alignPipeConfig info format c = (.ok (), c')) :
    c'.leftPipe.valid = true := by
  unfold alignPipeConfig at h
  split at h
  · cases h
  next hvalid =>
    have hleft : c.leftPipe.valid = true := by simpa using hvalid
    split at h
    · cases h
    · split at h
      · obtain ⟨-, rfl⟩ := Prod.mk.inj h
        exact hleft
      · obtain ⟨-, rfl⟩ := Prod.mk.inj h
        exact hleft

/-- `Config` accepts no layer without a left pipe. -/
theorem config_valid {info : HWResourceInfo} {mixer : HWMixerAttributes} {layer : Layer F}
    {c c' : HWLayerConfig F} (h : config info mixer layer c = (.ok (), c')) :
    c'.leftPipe.valid = true := by
  unfold config at h
  split at h
  · cases h
  · dsimp only at h
    split at h
    · cases h
    next halign =>
      obtain ⟨-, rfl⟩ := Prod.mk.inj h
      exact (alignPipeConfig_valid halign :)

end Yoshino.Display
