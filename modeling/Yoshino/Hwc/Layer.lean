import Yoshino.Display.LayerConfig

/-!
# Layers of the composer

`HWCLayer` keeps what the client has set for a layer, the layer that is handed to the display core, and
the fences that are still to be given back to the client. Every setter compares before it writes, and
what it finds changed is recorded in the geometry changes or in the flag that asks for a validation.
Coordinates are of the machine's `float`, or of any type with its operations.
-/

namespace Yoshino.Hwc

open Yoshino.Display (LayerRect LayerBufferFormat LayerComposition FloatArith)
open Yoshino.Display.FloatArith

/-- `HWC2::Composition`. -/
inductive Composition
  | invalid
  | client
  | device
  | solidColor
  | cursor
  | sideband
  deriving DecidableEq, Repr

/-- `HWC2::Error`. -/
inductive Error
  | none
  | badConfig
  | badDisplay
  | badLayer
  | badParameter
  | hasChanges
  | noResources
  | notValidated
  | unsupported
  deriving DecidableEq, Repr

/-- `LayerBlending`. -/
inductive LayerBlending
  | blendingPremultiplied
  | blendingOpaque
  | blendingCoverage
  deriving DecidableEq, Repr

/-- `HWC2::BlendMode`. -/
inductive BlendMode
  | invalid
  | none
  | premultiplied
  | coverage
  deriving DecidableEq, Repr

/-- `LayerTransform`. -/
structure LayerTransform (F : Type) [FloatArith F] where
  rotation : F := ofUInt32 0
  flipHorizontal : Bool := false
  flipVertical : Bool := false

/-- `operator==`. -/
instance {F : Type} [FloatArith F] : BEq (LayerTransform F) where
  beq t t' := t.rotation == t'.rotation && t.flipHorizontal == t'.flipHorizontal &&
    t.flipVertical == t'.flipVertical

/-- `HWC2::Transform`. -/
inductive Transform
  | none
  | flipH
  | flipV
  | rotate90
  | rotate180
  | rotate270
  | flipHRotate90
  | flipVRotate90
  deriving DecidableEq, Repr

/-- `IGC_t` of the metadata, with the values that are not supported in one. -/
inductive MetadataIGC
  | notSpecified
  | sRGB
  | other
  deriving DecidableEq, Repr

/-- `LayerIGC`. -/
inductive LayerIGC
  | notSpecified
  | sRGB
  deriving DecidableEq, Repr

/-- The stereo formats of the metadata. -/
inductive MetadataS3D
  | no3D
  | sideBySideLR
  | sideBySideRL
  | topBottom
  | other
  deriving DecidableEq, Repr

/-- `LayerBufferS3DFormat`. -/
inductive LayerBufferS3DFormat
  | none
  | leftRight
  | rightLeft
  | topBottom
  | framePacking
  deriving DecidableEq, Repr

/-- `ColorPrimaries`, as far as they are told apart. -/
inductive ColorPrimaries
  | bt709_5
  | bt601_6_525
  | bt2020
  | other
  deriving DecidableEq, Repr

/-- `GammaTransfer`, as far as they are told apart. -/
inductive GammaTransfer
  | sRGB
  | smpteSt2084
  | hlg
  | other
  deriving DecidableEq, Repr

/-- `ColorMetaData`. -/
structure ColorMetaData where
  colorPrimaries : ColorPrimaries := .other
  transfer : GammaTransfer := .other
  fullRange : Bool := false
  deriving DecidableEq

/-- `ColorSpace_t` of the metadata. -/
inductive ColorSpace
  | itu601
  | itu601Fr
  | itu709
  | itu2020
  | itu2020Fr
  | other
  deriving DecidableEq, Repr

/-- The metadata of a buffer; what is not there cannot be read. -/
structure Metadata (F : Type) where
  igc : Option MetadataIGC := none
  refreshRate : Option F := none
  interlaced : Bool := false
  linearFormat : Option LayerBufferFormat := none
  s3dFormat : Option MetadataS3D := none
  colorMetadata : Option ColorMetaData := none
  colorSpace : Option ColorSpace := none

/-- What is read of a `private_handle_t`; the format is the one `GetSDMFormat` gives. -/
structure Handle (F : Type) where
  fd : Int
  format : LayerBufferFormat
  alignedWidth : UInt32
  alignedHeight : UInt32
  unalignedWidth : UInt32
  unalignedHeight : UInt32
  width : UInt32
  offset : UInt32
  size : UInt32
  /-- Whether the buffer type is that of video. -/
  video : Bool := false
  secureBuffer : Bool := false
  protectedBuffer : Bool := false
  cameraWrite : Bool := false
  secureDisplay : Bool := false
  metadata : Metadata F := {}

/-- `LayerBuffer`; of the planes only the first is used. -/
structure LayerBuffer (F : Type) where
  width : UInt32 := 0
  height : UInt32 := 0
  unalignedWidth : UInt32 := 0
  unalignedHeight : UInt32 := 0
  size : UInt32 := 0
  format : LayerBufferFormat := .rgba8888
  colorMetadata : ColorMetaData := {}
  igc : LayerIGC := .notSpecified
  planeFd : Int := -1
  planeOffset : UInt32 := 0
  planeStride : UInt32 := 0
  acquireFenceFd : Int := -1
  releaseFenceFd : Int := -1
  secure : Bool := false
  video : Bool := false
  interlace : Bool := false
  secureDisplay : Bool := false
  secureCamera : Bool := false
  hdr : Bool := false
  s3dFormat : LayerBufferS3DFormat := .none
  /-- `buffer_id`, the handle itself. -/
  bufferId : Option (Handle F) := none

/-- `LayerFlags`. -/
structure LayerFlags where
  skip : Bool := false
  updating : Bool := false
  solidFill : Bool := false
  cursor : Bool := false
  singleBuffer : Bool := false

/-- `Layer`, as it is handed to the display core. -/
structure Layer (F : Type) [FloatArith F] where
  inputBuffer : LayerBuffer F := {}
  composition : LayerComposition := .gpu
  srcRect : LayerRect F := .zero
  dstRect : LayerRect F := .zero
  visibleRegions : List (LayerRect F) := []
  dirtyRegions : List (LayerRect F) := []
  blending : LayerBlending := .blendingPremultiplied
  transform : LayerTransform F := {}
  planeAlpha : UInt8 := 255
  frameRate : UInt32 := 0
  solidFillColor : UInt32 := 0
  flags : LayerFlags := {}
  /-- `request.flags.flip_buffer`. -/
  flipBuffer : Bool := false

/-- `hwc2_layer_t`. -/
abbrev LayerId := Nat

/-- A record of the descriptors that came in, that were closed and that were given to the client. -/
structure Ledger where
  received : List Int := []
  closed : List Int := []
  handed : List Int := []

/-- More entries in the record. -/
def Ledger.add (b entries : Ledger) : Ledger where
  received := b.received ++ entries.received
  closed := b.closed ++ entries.closed
  handed := b.handed ++ entries.handed

/-- `HWCLayer`. -/
structure HwcLayer (F : Type) [FloatArith F] where
  id : LayerId
  z : UInt32 := 0
  layer : Layer F := {}
  releaseFences : List Int := [-1]
  ionFd : Int := -1
  dataspace : Int := 0
  needsValidate : Bool := true
  nonIntegralSourceCrop : Bool := false
  clientRequested : Composition := .device
  deviceSelected : Composition := .device
  geometryChanges : UInt32 := 0

/-- `hwc_rect_t`. -/
structure Frame where
  left : Int32
  top : Int32
  right : Int32
  bottom : Int32
  deriving DecidableEq

variable {F : Type} [FloatArith F]

/-- `SetRect` of a frame. -/
def Frame.rect (f : Frame) : LayerRect F :=
  ⟨ofInt32 f.left, ofInt32 f.top, ofInt32 f.right, ofInt32 f.bottom⟩

/-- `INT` of the coordinates. -/
def frameOf (r : LayerRect F) : Frame :=
  ⟨toInt32 r.left, toInt32 r.top, toInt32 r.right, toInt32 r.bottom⟩

namespace HwcLayer

/-! The bits of `GeometryChanges`. -/

def kBlendMode : UInt32 := 0x001
def kDataspace : UInt32 := 0x002
def kDisplayFrame : UInt32 := 0x004
def kPlaneAlpha : UInt32 := 0x008
def kSourceCrop : UInt32 := 0x010
def kTransform : UInt32 := 0x020
def kZOrder : UInt32 := 0x040
def kAdded : UInt32 := 0x080
def kRemoved : UInt32 := 0x100
def kBufferGeometry : UInt32 := 0x200

/-- An attribute is written, and its bit set, if it is another one than before. -/
def change {α : Type} [BEq α] (bit : UInt32) (old new : α) (write : HwcLayer F → HwcLayer F)
    (l : HwcLayer F) : HwcLayer F :=
  if old != new then write { l with geometryChanges := l.geometryChanges ||| bit } else l

/-- `SetLayerBlendMode`. -/
def setLayerBlendMode (mode : BlendMode) (l : HwcLayer F) : HwcLayer F × Error :=
  let set (blending : LayerBlending) : HwcLayer F × Error :=
    (l.change kBlendMode l.layer.blending blending
      fun l => { l with layer := { l.layer with blending := blending } }, .none)
  match mode with
  | .coverage => set .blendingCoverage
  | .premultiplied => set .blendingPremultiplied
  | .none => set .blendingOpaque
  | .invalid => (l, .badParameter)

/-- `SetLayerDataspace`, with the map of deprecated values to new ones. -/
def setLayerDataspace (current : Int → Int) (dataspace : Int) (l : HwcLayer F) : HwcLayer F × Error :=
  (l.change kDataspace l.dataspace (current dataspace) fun l => { l with dataspace := current dataspace },
    .none)

/-- `SetLayerDisplayFrame`. -/
def setLayerDisplayFrame (frame : Frame) (l : HwcLayer F) : HwcLayer F × Error :=
  (l.change kDisplayFrame l.layer.dstRect frame.rect
    fun l => { l with layer := { l.layer with dstRect := frame.rect } }, .none)

/-- `SetCursorPosition`. -/
def setCursorPosition (x y : Int32) (l : HwcLayer F) : HwcLayer F × Error :=
  let dst := l.layer.dstRect
  l.setLayerDisplayFrame
    ⟨x, y, x + toInt32 (dst.right - dst.left), y + toInt32 (dst.bottom - dst.top)⟩

/-- `SetLayerPlaneAlpha`. -/
def setLayerPlaneAlpha (alpha : F) (l : HwcLayer F) : HwcLayer F × Error :=
  let planeAlpha := toUInt8 (roundf (ofUInt32 255 * alpha))
  (l.change kPlaneAlpha l.layer.planeAlpha planeAlpha
    fun l => { l with layer := { l.layer with planeAlpha := planeAlpha } }, .none)

/-- `SetRect` of a crop. -/
def cropRect (crop : LayerRect F) : LayerRect F :=
  ⟨ceilf crop.left, ceilf crop.top, floorf crop.right, floorf crop.bottom⟩

/-- `SetLayerSourceCrop`. -/
def setLayerSourceCrop (crop : LayerRect F) (l : HwcLayer F) : HwcLayer F × Error :=
  let nonIntegral := crop.left != roundf crop.left || crop.top != roundf crop.top ||
    crop.right != roundf crop.right || crop.bottom != roundf crop.bottom
  let l := { l with nonIntegralSourceCrop := nonIntegral }
  (l.change kSourceCrop l.layer.srcRect (cropRect crop)
    fun l => { l with layer := { l.layer with srcRect := cropRect crop } }, .none)

/-- The rotation and the flips of a transform. -/
def layerTransform : Transform → LayerTransform F
  | .none => {}
  | .flipH => { flipHorizontal := true }
  | .flipV => { flipVertical := true }
  | .rotate90 => { rotation := ofUInt32 90 }
  | .rotate180 => { flipHorizontal := true, flipVertical := true }
  | .rotate270 => { rotation := ofUInt32 90, flipHorizontal := true, flipVertical := true }
  | .flipHRotate90 => { rotation := ofUInt32 90, flipHorizontal := true }
  | .flipVRotate90 => { rotation := ofUInt32 90, flipVertical := true }

/-- `SetLayerTransform`. -/
def setLayerTransform (transform : Transform) (l : HwcLayer F) : HwcLayer F × Error :=
  (l.change kTransform l.layer.transform (layerTransform transform)
    fun l => { l with layer := { l.layer with transform := layerTransform transform } }, .none)

/-- `SetLayerZOrder` of the layer. -/
def setLayerZOrder (z : UInt32) (l : HwcLayer F) : HwcLayer F :=
  l.change kZOrder l.z z fun l => { l with z := z }

/-- `SetLayerColor`. -/
def setLayerColor (color : UInt32) (l : HwcLayer F) : HwcLayer F × Error :=
  if l.clientRequested ≠ .solidColor then (l, .none)
  else
    ({ l with layer := { l.layer with
        solidFillColor := color
        inputBuffer := { l.layer.inputBuffer with format := .argb8888 } } }, .none)

/-- `SetLayerCompositionType`. -/
def setLayerCompositionType (type : Composition) (l : HwcLayer F) : HwcLayer F × Error :=
  ({ l with clientRequested := type },
    match type with
    | .client | .device | .solidColor | .cursor => .none
    | .invalid => .badParameter
    | .sideband => .unsupported)

/-- `SetLayerSurfaceDamage`. -/
def setLayerSurfaceDamage (damage : List Frame) (l : HwcLayer F) : HwcLayer F × Error :=
  let regions : List (LayerRect F) := damage.map Frame.rect
  ({ l with
      needsValidate := l.needsValidate || regions != l.layer.dirtyRegions
      layer := { l.layer with dirtyRegions := regions } }, .none)

/-- `SetLayerVisibleRegion`. -/
def setLayerVisibleRegion (visible : List Frame) (l : HwcLayer F) : HwcLayer F × Error :=
  ({ l with layer := { l.layer with visibleRegions := visible.map Frame.rect } }, .none)

/-- `RoundToStandardFPS`, with the difference of unsigned numbers. -/
def roundToStandardFPS (fps : F) : UInt32 :=
  let frameRate := toUInt32 fps
  (([24, 30, 48, 60] : List UInt32).find? fun standard => standard - frameRate < 2).getD frameRate

/-- `SetIGC`. -/
def setIGC : MetadataIGC → Option LayerIGC
  | .notSpecified => some .notSpecified
  | .sRGB => some .sRGB
  | .other => none

/-- `GetS3DFormat`. -/
def getS3DFormat : MetadataS3D → LayerBufferS3DFormat
  | .no3D => .none
  | .sideBySideLR => .leftRight
  | .sideBySideRL => .rightLeft
  | .topBottom => .topBottom
  | .other => .none

/-- The curve of the metadata, if it is supported. -/
def metadataIGC (metadata : Metadata F) (igc : LayerIGC) : Option LayerIGC :=
  match metadata.igc with
  | none => some igc
  | some igc => setIGC igc

/-- The rest of the metadata, with the curve. -/
def describe (metadata : Metadata F) (l : HwcLayer F) (igc : LayerIGC) : HwcLayer F :=
  let buffer := l.layer.inputBuffer
  let frameRate := (metadata.refreshRate.map roundToStandardFPS).getD l.layer.frameRate
  let format := metadata.linearFormat.getD buffer.format
  let s3dFormat := (metadata.s3dFormat.map getS3DFormat).getD buffer.s3dFormat
  let changed := igc ≠ buffer.igc ∨ metadata.interlaced ≠ buffer.interlace ∨
    frameRate ≠ l.layer.frameRate ∨ s3dFormat ≠ buffer.s3dFormat
  { l with
    needsValidate := l.needsValidate || decide changed
    layer := { l.layer with
      frameRate := frameRate
      inputBuffer := { buffer with
        format := format
        igc := igc
        s3dFormat := s3dFormat
        interlace := metadata.interlaced } } }

/-- `SetMetaData`, or nothing if the curve of the buffer is not supported. -/
def setMetaData (metadata : Metadata F) (l : HwcLayer F) : Option (HwcLayer F) :=
  (metadataIGC metadata l.layer.inputBuffer.igc).map (describe metadata l)

/-- The buffer's geometry, which is compared first. -/
def setBufferGeometry (handle : Handle F) (l : HwcLayer F) : HwcLayer F :=
  let buffer := l.layer.inputBuffer
  let changed := handle.format ≠ buffer.format ∨ handle.alignedWidth ≠ buffer.width ∨
    handle.alignedHeight ≠ buffer.height
  { l with
    geometryChanges := if changed then l.geometryChanges ||| kBufferGeometry else l.geometryChanges
    layer := { l.layer with inputBuffer := { buffer with
      format := handle.format
      width := handle.alignedWidth
      height := handle.alignedHeight
      unalignedWidth := handle.unalignedWidth
      unalignedHeight := handle.unalignedHeight } } }

/-- The buffer itself, its flags and its fence. -/
def setBufferContent (handle : Handle F) (acquireFence : Int) (l : HwcLayer F) : HwcLayer F :=
  let buffer := l.layer.inputBuffer
  let secureCamera := handle.secureBuffer && handle.cameraWrite
  { l with
    needsValidate := l.needsValidate || decide (handle.secureBuffer ≠ buffer.secure ∨
      secureCamera ≠ buffer.secureCamera ∨ handle.secureDisplay ≠ buffer.secureDisplay)
    layer := { l.layer with inputBuffer := { buffer with
      video := handle.video
      secure := handle.secureBuffer
      secureCamera := secureCamera
      secureDisplay := handle.secureDisplay
      planeFd := l.ionFd
      planeOffset := handle.offset
      planeStride := handle.width
      acquireFenceFd := acquireFence
      size := handle.size
      bufferId := some handle } } }

/-- `SetLayerBuffer`, with the descriptor that `dup` gives; on an error the fence is not taken over. -/
def setLayerBuffer (dup : Int) (buffer : Option (Handle F)) (acquireFence : Int) (l : HwcLayer F) :
    HwcLayer F × Ledger × Error :=
  match buffer with
  | none => (l, {}, .badParameter)
  | some handle =>
    if acquireFence = 0 then (l, {}, .badParameter)
    else if handle.fd < 0 then (l, {}, .badParameter)
    else
      let geometry := { l with ionFd := dup }.setBufferGeometry handle
      match geometry.setMetaData handle.metadata with
      | none => (geometry, { received := [dup], closed := [l.ionFd] }, .badLayer)
      | some described =>
        (described.setBufferContent handle acquireFence,
          { received := [dup, acquireFence]
            closed := [l.ionFd, described.layer.inputBuffer.acquireFenceFd] },
          .none)

/-- The decision of the display core for a layer or a fill, as a type of the composer. -/
def select (composition : LayerComposition) (fill : Bool) : Composition :=
  if composition = .sde ∧ fill then .solidColor
  else
    match composition with
    | .gpu => .client
    | .hwCursor => .cursor
    | _ => .device

/-- `SetComposition`. -/
def setComposition (l : HwcLayer F) : HwcLayer F :=
  { l with deviceSelected := select l.layer.composition l.layer.flags.solidFill }

/-- `PushReleaseFence`. -/
def pushReleaseFence (fence : Int) (l : HwcLayer F) : HwcLayer F :=
  { l with releaseFences := l.releaseFences ++ [fence] }

/-- `PopReleaseFence`. -/
def popReleaseFence (l : HwcLayer F) : HwcLayer F × Int :=
  match l.releaseFences with
  | [] => (l, -1)
  | fence :: rest => ({ l with releaseFences := rest }, fence)

/-- `ResetGeometryChanges`. -/
def resetGeometryChanges (l : HwcLayer F) : HwcLayer F := { l with geometryChanges := 0 }

/-- `ResetValidation`. -/
def resetValidation (l : HwcLayer F) : HwcLayer F := { l with needsValidate := false }

/-- `NeedsValidation`. -/
def needsValidation (l : HwcLayer F) : Bool := l.needsValidate || l.geometryChanges ≠ 0

/-- `SetCSC`. -/
def setCSC (metadata : Metadata F) (color : ColorMetaData) : ColorMetaData :=
  match metadata.colorMetadata, metadata.colorSpace with
  | some color, _ => color
  | none, some .itu601 => { color with colorPrimaries := .bt601_6_525 }
  | none, some .itu601Fr => { color with colorPrimaries := .bt601_6_525, fullRange := true }
  | none, some .itu709 => { color with colorPrimaries := .bt709_5 }
  | none, some .itu2020 => { color with colorPrimaries := .bt2020 }
  | none, some .itu2020Fr => { color with colorPrimaries := .bt2020, fullRange := true }
  | none, some .other => color
  | none, none => color

/-- `ValidateAndSetCSC`, whose result is used for wide color only. -/
def validateAndSetCSC (l : HwcLayer F) : HwcLayer F :=
  if l.clientRequested ≠ .device ∧ l.clientRequested ≠ .cursor then l
  else
    match l.layer.inputBuffer.bufferId with
    | none => l
    | some handle =>
      let buffer := l.layer.inputBuffer
      { l with layer := { l.layer with inputBuffer :=
        { buffer with colorMetadata := setCSC handle.metadata buffer.colorMetadata } } }

end HwcLayer

/-- The functions of a layer that the client calls. -/
inductive LayerCall (F : Type)
  | setLayerBlendMode (mode : BlendMode)
  | setLayerBuffer (dup : Int) (buffer : Option (Handle F)) (acquireFence : Int)
  | setLayerColor (color : UInt32)
  | setLayerCompositionType (type : Composition)
  | setLayerDataspace (dataspace : Int)
  | setLayerDisplayFrame (frame : Frame)
  | setCursorPosition (x y : Int32)
  | setLayerPlaneAlpha (alpha : F)
  | setLayerSourceCrop (crop : LayerRect F)
  | setLayerSurfaceDamage (damage : List Frame)
  | setLayerTransform (transform : Transform)
  | setLayerVisibleRegion (visible : List Frame)

/-- A call of a function that handles no descriptors. -/
def noDescriptors (r : HwcLayer F × Error) : HwcLayer F × Ledger × Error := (r.1, {}, r.2)

/-- A call: the layer, the descriptors, and the result. -/
def LayerCall.run (current : Int → Int) (l : HwcLayer F) : LayerCall F → HwcLayer F × Ledger × Error
  | .setLayerBlendMode mode => noDescriptors (l.setLayerBlendMode mode)
  | .setLayerBuffer dup buffer acquireFence => l.setLayerBuffer dup buffer acquireFence
  | .setLayerColor color => noDescriptors (l.setLayerColor color)
  | .setLayerCompositionType type => noDescriptors (l.setLayerCompositionType type)
  | .setLayerDataspace dataspace => noDescriptors (l.setLayerDataspace current dataspace)
  | .setLayerDisplayFrame frame => noDescriptors (l.setLayerDisplayFrame frame)
  | .setCursorPosition x y => noDescriptors (l.setCursorPosition x y)
  | .setLayerPlaneAlpha alpha => noDescriptors (l.setLayerPlaneAlpha alpha)
  | .setLayerSourceCrop crop => noDescriptors (l.setLayerSourceCrop crop)
  | .setLayerSurfaceDamage damage => noDescriptors (l.setLayerSurfaceDamage damage)
  | .setLayerTransform transform => noDescriptors (l.setLayerTransform transform)
  | .setLayerVisibleRegion visible => noDescriptors (l.setLayerVisibleRegion visible)

end Yoshino.Hwc
