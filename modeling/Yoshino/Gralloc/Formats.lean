import Yoshino.Library.Overflow

/-!
# Pixel formats and the platform of the graphics allocator

The formats the allocator tells apart, and what it takes from outside its own sources: the usage
bits of the gralloc header, the heaps and flags of ion, the strides of the video core and the entry
points of the Adreno library.
-/

namespace Yoshino.Gralloc

/-- The block sizes of the ASTC formats. -/
inductive AstcBlock where
  | b4x4 | b5x4 | b5x5 | b6x5 | b6x6 | b8x5 | b8x6 | b8x8 | b10x5 | b10x6 | b10x8 | b10x10
  | b12x10 | b12x12

/-- The pixel formats that some function of the allocator names, and all others by their code. -/
inductive PixelFormat where
  | rgba8888 | rgbx8888 | rgb888 | rgb565 | bgr565 | bgra8888 | rgba5551 | rgba4444 | r8 | rg88
  | bgrx8888 | rgba1010102 | argb2101010 | rgbx1010102 | xrgb2101010 | bgra1010102 | abgr2101010
  | bgrx1010102 | xbgr2101010 | rgbaFp16 | bgr888
  | compressedRgbaAstc (block : AstcBlock)
  | compressedSrgb8Alpha8Astc (block : AstcBlock)
  | raw16 | y16 | raw10 | raw12 | raw8 | y8
  | yCrCb420SpAdreno | yCbCr420SpTiled | yv12 | yCbCr420Sp | yCrCb420Sp | yCbCr420P010
  | yCbCr422Sp | yCrCb422Sp | yCbCr422I | yCrCb422I | cbYCrY422I
  | yCbCr420SpVenus | nv12Encodeable | yCrCb420SpVenus | blob | rawOpaque | nv21Zsl
  | yCbCr420SpVenusUbwc | yCbCr420Tp10Ubwc | yCbCr420P010Ubwc
  | implementationDefined | yCbCr420Flexible
  | other (code : Int32)

/-- The colour formats of the video core. -/
inductive ColorFormat where
  | nv12 | nv21 | nv12Ubwc | nv12Bpp10Ubwc | p010Ubwc

/-- The producer usage bits. -/
structure ProducerBits where
  cpuRead : UInt64
  cpuReadOften : UInt64
  cpuWrite : UInt64
  cpuWriteOften : UInt64
  gpuRenderTarget : UInt64
  protectedContent : UInt64
  camera : UInt64
  sensorDirectData : UInt64
  privateAllocUbwc : UInt64
  privateUncached : UInt64
  privateCameraHeap : UInt64
  privateAdspHeap : UInt64
  privateMmHeap : UInt64

/-- The consumer usage bits. -/
structure ConsumerBits where
  cpuRead : UInt64
  gpuTexture : UInt64
  hwcomposer : UInt64
  clientTarget : UInt64
  videoEncoder : UInt64
  camera : UInt64
  gpuDataBuffer : UInt64
  composerClientTarget : UInt64

/-- The masks of the ion heaps and the flags of secure allocations. -/
structure IonBits where
  systemHeap : UInt32
  cameraHeap : UInt32
  adspHeap : UInt32
  cpHeap : UInt32
  sdHeap : UInt32
  secure : UInt32
  cpFlags : UInt32
  sdFlags : UInt32
  scFlags : UInt32
  scPreviewFlags : UInt32

/-- Strides, scanlines and sizes of the video core. -/
structure Venus where
  bufferSize : ColorFormat → Int32 → Int32 → UInt32
  yStride : ColorFormat → Int32 → UInt32
  yScanlines : ColorFormat → Int32 → UInt32
  yMetaStride : ColorFormat → Int32 → UInt32
  yMetaScanlines : ColorFormat → Int32 → UInt32
  uvStride : ColorFormat → Int32 → UInt32
  uvScanlines : ColorFormat → Int32 → UInt32
  uvMetaStride : ColorFormat → Int32 → UInt32
  uvMetaScanlines : ColorFormat → Int32 → UInt32

/-- The properties and the library entry points `AdrenoMemInfo` looks up once. -/
structure AdrenoMemInfo where
  gfxUbwcDisable : Bool
  mapFb : Bool
  /-- Width, height, bytes per pixel, tile mode, raster mode and padding threshold. -/
  computeAlignedWidthAndHeight :
    Option (Int32 → Int32 → Int32 → Int32 → Int32 → Int32 → Int32 × Int32)
  /-- Width, bytes per pixel, surface tile height, raster mode and padding threshold. -/
  computePadding : Option (Int32 → Int32 → Int32 → Int32 → Int32 → Int32)
  /-- Width, height, format, tile mode, raster mode and padding threshold. -/
  computeCompressedfmtAlignedWidthAndHeight :
    Option (Int32 → Int32 → PixelFormat → Int32 → Int32 → Int32 → Int32 × Int32)
  isUBWCSupportedByGpu : Option (Nat → Bool)
  gpuPixelAlignment : Option UInt32
  isSecureContextSupportedByGpu : Option Bool

/-- The format of the camera preview, chosen when the allocator is built. -/
inductive CameraPreview where
  | yCrCb | yCrCbVenus | default

/-- Everything the allocator takes from its platform. -/
structure Platform where
  producer : ProducerBits
  consumer : ConsumerBits
  ion : IonBits
  venus : Venus
  adreno : AdrenoMemInfo
  preview : CameraPreview
  masterSideCp : Bool
  metaDataSize : UInt32
  pageSize : UInt32
  /-- Pages are of 4 KiB or of a larger power of two. -/
  pageSize_eq : ∃ k, 12 ≤ k ∧ pageSize.toNat = 2 ^ k

/-- A platform with 4 KiB pages and without the Adreno library, whose video core does not pad. -/
def Platform.plain : Platform where
  producer :=
    { cpuRead := 0x2, cpuReadOften := 0x6, cpuWrite := 0x20, cpuWriteOften := 0x60
      gpuRenderTarget := 0x200, protectedContent := 0x4000, camera := 0x20000
      sensorDirectData := 0x800000, privateAllocUbwc := 0x10000000
      privateUncached := 0x20000000, privateCameraHeap := 0x40000000
      privateAdspHeap := 0x80000000, privateMmHeap := 0x2000000000000 }
  consumer :=
    { cpuRead := 0x2, gpuTexture := 0x100, hwcomposer := 0x800, clientTarget := 0x1000
      videoEncoder := 0x10000, camera := 0x40000, gpuDataBuffer := 0x1000000
      composerClientTarget := 0x1000 }
  ion :=
    { systemHeap := 0x2000000, cameraHeap := 0x100000, adspHeap := 0x400000, cpHeap := 0x100
      sdHeap := 0x400, secure := 0x80000000, cpFlags := 0x80000000, sdFlags := 0x80000000
      scFlags := 0x80000000, scPreviewFlags := 0x80000000 }
  venus :=
    { bufferSize := fun _ width height => (width * height).toUInt32
      yStride := fun _ width => width.toUInt32
      yScanlines := fun _ height => height.toUInt32
      yMetaStride := fun _ width => width.toUInt32
      yMetaScanlines := fun _ height => height.toUInt32
      uvStride := fun _ width => width.toUInt32
      uvScanlines := fun _ height => height.toUInt32
      uvMetaStride := fun _ width => width.toUInt32
      uvMetaScanlines := fun _ height => height.toUInt32 }
  adreno :=
    { gfxUbwcDisable := false, mapFb := false, computeAlignedWidthAndHeight := none
      computePadding := none, computeCompressedfmtAlignedWidthAndHeight := none
      isUBWCSupportedByGpu := none, gpuPixelAlignment := none
      isSecureContextSupportedByGpu := none }
  preview := .default
  masterSideCp := false
  metaDataSize := 8192
  pageSize := 4096
  pageSize_eq := ⟨12, le_rfl, rfl⟩

/-- Some bit of a mask is set. -/
def has (usage mask : UInt64) : Bool :=
  usage &&& mask != 0

def privateSecureDisplay : UInt64 := 0x80000000

def privateInternalOnly : UInt64 := 0x04000000

def privateExternalOnly : UInt64 := 0x08000000

def gpuSampledImage : UInt64 := 0x100

def gpuDataBuffer : UInt64 := 0x1000000

def gpuCubeMap : UInt64 := 0x2000000

def gpuMipmapComplete : UInt64 := 0x4000000

def isUncompressedRGBFormat : PixelFormat → Bool
  | .rgba8888 | .rgbx8888 | .rgb888 | .rgb565 | .bgr565 | .bgra8888 | .rgba5551 | .rgba4444 | .r8
  | .rg88 | .bgrx8888 | .rgba1010102 | .argb2101010 | .rgbx1010102 | .xrgb2101010 | .bgra1010102
  | .abgr2101010 | .bgrx1010102 | .xbgr2101010 | .rgbaFp16 | .bgr888 => true
  | _ => false

def isCompressedRGBFormat : PixelFormat → Bool
  | .compressedRgbaAstc _ | .compressedSrgb8Alpha8Astc _ => true
  | _ => false

/-- Zero stands for a format without a known size of its pixels. -/
def getBppForUncompressedRGB : PixelFormat → UInt32
  | .rgbaFp16 => 8
  | .rgba8888 | .rgbx8888 | .bgra8888 | .bgrx8888 | .rgba1010102 | .argb2101010 | .rgbx1010102
  | .xrgb2101010 | .bgra1010102 | .abgr2101010 | .bgrx1010102 | .xbgr2101010 => 4
  | .rgb888 | .bgr888 => 3
  | .rgb565 | .bgr565 | .rgba5551 | .rgba4444 => 2
  | _ => 0

/-- Explicitly defined UBWC formats. -/
def isUBwcFormat : PixelFormat → Bool
  | .yCbCr420SpVenusUbwc | .yCbCr420Tp10Ubwc | .yCbCr420P010Ubwc => true
  | _ => false

/-- Existing formats with UBWC support. -/
def isUBwcSupported : PixelFormat → Bool
  | .bgr565 | .rgba8888 | .rgbx8888 | .nv12Encodeable | .yCbCr420SpVenus | .rgba1010102
  | .rgbx1010102 => true
  | _ => false

end Yoshino.Gralloc
