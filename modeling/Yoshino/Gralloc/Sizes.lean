import Yoshino.Gralloc.Formats

/-!
# Dimensions and sizes of a graphics buffer

How `gr_utils` and `AdrenoMemInfo` derive the dimensions and the size of a buffer from a request.
Numbers are tracked: their values are those of the 32-bit computations, and their flags tell whether
one of these overflowed.
-/

namespace Yoshino.Gralloc

open Yoshino.Library

/-- What a client asks for. -/
structure BufferInfo where
  width : Int32
  height : Int32
  format : PixelFormat
  layerCount : Int32 := 1
  prodUsage : UInt64
  consUsage : UInt64

namespace Platform

variable (p : Platform)

def cpuCanRead (prodUsage consUsage : UInt64) : Bool :=
  has prodUsage p.producer.cpuRead || has consUsage p.consumer.cpuRead

def cpuCanWrite (prodUsage : UInt64) : Bool :=
  has prodUsage p.producer.cpuWrite

def cpuCanAccess (prodUsage consUsage : UInt64) : Bool :=
  p.cpuCanRead prodUsage consUsage || p.cpuCanWrite prodUsage

def secureAlign : UInt32 :=
  if p.masterSideCp then 0x1000 else 0x100000

def getDataAlignment (format : PixelFormat) (prodUsage consUsage : UInt64) : UInt32 :=
  let align : UInt32 := match format with
    | .yCbCr420SpTiled => 8192
    | _ => p.pageSize
  if has prodUsage p.producer.protectedContent then
    if has prodUsage p.producer.camera || has consUsage privateSecureDisplay then 0x200000
    else p.secureAlign
  else align

/-- The code by which the Adreno library knows a format. -/
def getGpuPixelFormat : PixelFormat → Nat
  | .rgba8888 => 28
  | .rgbx8888 => 507
  | .rgb565 => 85
  | .bgr565 => 610
  | .nv12Encodeable => 103
  | .yCbCr420SpVenus | .yCbCr420SpVenusUbwc => 506
  | .yCbCr420Tp10Ubwc => 654
  | .yCbCr420P010 | .yCbCr420P010Ubwc => 104
  | .rgba1010102 => 24
  | .rgbx1010102 => 537
  | .abgr2101010 => 532
  | .rgb888 => 508
  | .rgbaFp16 => 10
  | _ => 0

def isUBWCSupportedByGPU (format : PixelFormat) : Bool :=
  match p.adreno.isUBWCSupportedByGpu with
  | some supported => !p.adreno.gfxUbwcDisable && supported (getGpuPixelFormat format)
  | none => false

def isUBwcEnabled (format : PixelFormat) (prodUsage consUsage : UInt64) : Bool :=
  if isUBwcFormat format then true
  else if (has prodUsage p.producer.privateAllocUbwc ||
      has consUsage p.consumer.composerClientTarget) && isUBwcSupported format then
    -- The GPU is asked only about buffers it is going to use.
    let enable :=
      if has consUsage p.consumer.gpuTexture || has prodUsage p.producer.gpuRenderTarget then
        p.isUBWCSupportedByGPU format
      else true
    enable && !p.cpuCanAccess prodUsage consUsage
  else false

def getGpuPixelAlignment : UInt32 :=
  p.adreno.gpuPixelAlignment.getD 1

/-- The size of a pixel as the Adreno library is told it. -/
def adrenoBpp : PixelFormat → Int32
  | .rgb888 | .bgr888 => 3
  | .rgb565 | .bgr565 | .rgba5551 | .rgba4444 => 2
  | _ => 4

def alignUnCompressedRGB (width height : Int32) (format : PixelFormat) (tileEnabled : Int32) :
    Tracked UInt32 × Tracked UInt32 :=
  let alignedW := ((Tracked.of width).align 32).toUInt32
  let alignedH := ((Tracked.of height).align 32).toUInt32
  if p.adreno.mapFb then (alignedW, alignedH)
  else match p.adreno.computeAlignedWidthAndHeight, p.adreno.computePadding with
    | some compute, _ =>
      let aligned := compute width height (adrenoBpp format) tileEnabled 0 512
      (.of aligned.1.toUInt32, .of aligned.2.toUInt32)
    | none, some compute => (.of (compute width (adrenoBpp format) 1 0 512).toUInt32, alignedH)
    | none, none => (alignedW, alignedH)

def alignCompressedRGB (width height : Int32) (format : PixelFormat) :
    Tracked UInt32 × Tracked UInt32 :=
  match p.adreno.computeCompressedfmtAlignedWidthAndHeight with
  | some compute =>
    let aligned := compute width height format 0 0 512
    (.of aligned.1.toUInt32, .of aligned.2.toUInt32)
  | none =>
    (((Tracked.of width).align 32).toUInt32, ((Tracked.of height).align 32).toUInt32)

def getYuvUBwcWidthAndHeight (width height : Int32) (format : PixelFormat) :
    Tracked UInt32 × Tracked UInt32 :=
  match format with
  | .nv12Encodeable | .yCbCr420SpVenus | .yCbCr420SpVenusUbwc =>
    (.of (p.venus.yStride .nv12Ubwc width), .of (p.venus.yScanlines .nv12Ubwc height))
  | .yCbCr420Tp10Ubwc =>
    (.of (p.venus.yStride .nv12Bpp10Ubwc width) * 3 / 4,
      .of (p.venus.yScanlines .nv12Bpp10Ubwc height))
  | .yCbCr420P010Ubwc =>
    (.of (p.venus.yStride .p010Ubwc width) / 2, .of (p.venus.yScanlines .p010Ubwc height))
  | _ => (0, 0)

/-- The dimensions of the formats that are neither RGB nor compressed. -/
def yuvWidthAndHeight (width height : Int32) (format : PixelFormat) :
    Tracked Int32 × Tracked Int32 :=
  let w := Tracked.of width
  let h := Tracked.of height
  match format with
  | .yCrCb420Sp | .yCbCr420Sp => (w.align (Tracked.of p.getGpuPixelAlignment).toInt32, h)
  | .yCrCb420SpAdreno => (w.align 32, h)
  | .raw16 | .y16 | .y8 => (w.align 16, h)
  | .raw12 => ((w * 12 / 8).align 8, h)
  | .raw10 => ((w * 10 / 8).align 8, h)
  | .raw8 => (w.align 8, h)
  | .yCbCr420SpTiled => (w.align 128, h)
  | .yv12 | .yCbCr422Sp | .yCrCb422Sp | .yCbCr422I | .yCrCb422I | .yCbCr420P010 =>
    (w.align 16, h)
  | .yCbCr420SpVenus | .nv12Encodeable =>
    ((Tracked.of (p.venus.yStride .nv12 width)).toInt32,
      (Tracked.of (p.venus.yScanlines .nv12 height)).toInt32)
  | .yCrCb420SpVenus =>
    ((Tracked.of (p.venus.yStride .nv21 width)).toInt32,
      (Tracked.of (p.venus.yScanlines .nv21 height)).toInt32)
  | .nv21Zsl => (w.align 64, h.align 64)
  | _ => (w, h)

def getAlignedWidthAndHeight (info : BufferInfo) : Tracked UInt32 × Tracked UInt32 :=
  let ubwcEnabled := p.isUBwcEnabled info.format info.prodUsage info.consUsage
  if isUncompressedRGBFormat info.format then
    p.alignUnCompressedRGB info.width info.height info.format (if ubwcEnabled then 1 else 0)
  else if ubwcEnabled then p.getYuvUBwcWidthAndHeight info.width info.height info.format
  else if isCompressedRGBFormat info.format then
    p.alignCompressedRGB info.width info.height info.format
  else
    let aligned := p.yuvWidthAndHeight info.width info.height info.format
    (aligned.1.toUInt32, aligned.2.toUInt32)

/-- Width and height of a block, zero for an unsupported size of a pixel. -/
def getRgbUBwcBlockSize (bpp : UInt32) : Int32 × Int32 :=
  if bpp = 2 ∨ bpp = 4 then (16, 4)
  else if bpp = 8 then (8, 4)
  else if bpp = 16 then (4, 4)
  else (0, 0)

def getRgbUBwcMetaBufferSize (width height : Tracked Int32) (bpp : UInt32) : Tracked UInt32 :=
  let block := getRgbUBwcBlockSize bpp
  if block.1 = 0 ∨ block.2 = 0 then 0
  else
    let blockWidth := Tracked.of block.1
    let blockHeight := Tracked.of block.2
    let metaHeight := ((height + blockHeight - 1) / blockHeight).align 16
    let metaWidth := ((width + blockWidth - 1) / blockWidth).align 64
    ((metaWidth * metaHeight).align 4096).toUInt32

def getUBwcSize (width height : Int32) (format : PixelFormat) (alignedw alignedh : Tracked UInt32) :
    Tracked UInt32 :=
  match format with
  | .bgr565 | .rgba8888 | .rgbx8888 | .rgba1010102 | .rgbx1010102 =>
    let bpp := getBppForUncompressedRGB format
    alignedw * alignedh * .of bpp + getRgbUBwcMetaBufferSize (.of width) (.of height) bpp
  | .nv12Encodeable | .yCbCr420SpVenus | .yCbCr420SpVenusUbwc =>
    .of (p.venus.bufferSize .nv12Ubwc width height)
  | .yCbCr420Tp10Ubwc => .of (p.venus.bufferSize .nv12Bpp10Ubwc width height)
  | .yCbCr420P010Ubwc => .of (p.venus.bufferSize .p010Ubwc width height)
  | _ => 0

/-- The size of the formats that are neither RGB nor compressed, none where the request is refused. -/
def yuvSize (width height : Int32) (format : PixelFormat) (alignedw alignedh : Tracked UInt32) :
    Option (Tracked UInt32) :=
  let w := Tracked.of width
  let h := Tracked.of height
  match format with
  | .raw16 | .y16 => some (alignedw * alignedh * 2)
  | .raw10 | .raw12 => some ((alignedw * alignedh).align 4096)
  | .raw8 | .y8 => some (alignedw * alignedh * 1)
  | .yCrCb420SpAdreno =>
    some ((alignedw * alignedh).align 4096 +
      ((2 * (w / 2).align 32 * (h / 2).align 32).align 4096).toUInt32)
  | .yCbCr420SpTiled =>
    -- The header defines the 8K alignment as 4096.
    some ((alignedw * alignedh).align 4096 +
      (alignedw * ((h / 2).align 32).toUInt32).align 4096)
  | .yv12 =>
    if width &&& 1 ≠ 0 ∨ height &&& 1 ≠ 0 then none
    else
      some ((alignedw * alignedh + (alignedw / 2).align 16 * (alignedh / 2) * 2).align 4096)
  | .yCbCr420Sp | .yCrCb420Sp =>
    some ((alignedw * alignedh + alignedw * alignedh / 2 + 1).align 4096)
  | .yCbCr420P010 => some ((alignedw * alignedh * 2 + alignedw * alignedh + 1).align 4096)
  | .yCbCr422Sp | .yCrCb422Sp | .yCbCr422I | .yCrCb422I | .cbYCrY422I =>
    if width &&& 1 ≠ 0 then none else some ((alignedw * alignedh * 2).align 4096)
  | .yCbCr420SpVenus | .nv12Encodeable => some (.of (p.venus.bufferSize .nv12 width height))
  | .yCrCb420SpVenus => some (.of (p.venus.bufferSize .nv21 width height))
  | .blob | .rawOpaque => if height ≠ 1 then none else some w.toUInt32
  | .nv21Zsl => some ((alignedw * alignedh + alignedw * alignedh / 2).align 4096)
  | _ => none

/-- The final size of a buffer, zero where the request is refused. -/
def getSize (info : BufferInfo) (alignedw alignedh : Tracked UInt32) : Tracked UInt32 :=
  let unaligned : Option (Tracked UInt32) :=
    if p.isUBwcEnabled info.format info.prodUsage info.consUsage then
      some (p.getUBwcSize info.width info.height info.format alignedw alignedh)
    else if isUncompressedRGBFormat info.format then
      some (alignedw * alignedh * .of (getBppForUncompressedRGB info.format))
    else if isCompressedRGBFormat info.format then some (alignedw * alignedh * 16)
    else p.yuvSize info.width info.height info.format alignedw alignedh
  match unaligned with
  | none => 0
  | some size =>
    size.align (.of (p.getDataAlignment info.format info.prodUsage info.consUsage)) *
      (Tracked.of info.layerCount).toUInt32

/-- Size, aligned width and aligned height. -/
def getBufferSizeAndDimensions (info : BufferInfo) :
    Tracked UInt32 × Tracked UInt32 × Tracked UInt32 :=
  let aligned := p.getAlignedWidthAndHeight info
  (p.getSize info aligned.1 aligned.2, aligned.1, aligned.2)

end Platform

/-- The data alignment is a power of two of at least 4 KiB. -/
theorem getDataAlignment_eq (p : Platform) (format : PixelFormat) (prodUsage consUsage : UInt64) :
    ∃ k, 12 ≤ k ∧ (p.getDataAlignment format prodUsage consUsage).toNat = 2 ^ k := by
  have hsecure : ∃ k, 12 ≤ k ∧ p.secureAlign.toNat = 2 ^ k := by
    unfold Platform.secureAlign
    split
    · exact ⟨12, by decide, rfl⟩
    · exact ⟨20, by decide, rfl⟩
  dsimp only [Platform.getDataAlignment]
  by_cases hprotected : has prodUsage p.producer.protectedContent = true
  · rw [if_pos hprotected]
    split
    · exact ⟨21, by decide, rfl⟩
    · exact hsecure
  · rw [if_neg hprotected]
    split
    · exact ⟨13, by decide, rfl⟩
    · exact p.pageSize_eq

end Yoshino.Gralloc
