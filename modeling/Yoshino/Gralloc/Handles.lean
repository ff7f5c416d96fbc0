import Yoshino.Gralloc.Sizes

/-!
# Descriptors and handles of graphics buffers

The allocation policy that follows from the usage bits of a request (caching, heap, format), and the
handle that stands for a buffer once its memory is there.
-/

namespace Yoshino.Gralloc

open Yoshino.Library

/-- A request under construction. -/
structure BufferDescriptor where
  width : Int32 := -1
  height : Int32 := -1
  format : PixelFormat := .other (-1)
  layerCount : UInt32 := 1
  producerUsage : UInt64 := 0
  consumerUsage : UInt64 := 0

/-- The request as the size computations see it, always with one layer. -/
def getBufferInfo (d : BufferDescriptor) : BufferInfo where
  width := d.width
  height := d.height
  format := d.format
  prodUsage := d.producerUsage
  consUsage := d.consumerUsage

inductive BufferType where
  | ui | video

structure PrivateHandle where
  fd : Int32
  fdMetadata : Int32
  flags : UInt32
  width : Int32
  height : Int32
  unalignedWidth : Int32
  unalignedHeight : Int32
  format : PixelFormat
  bufferType : BufferType
  size : UInt32
  base : UInt64 := 0
  id : UInt64
  producerUsage : UInt64
  consumerUsage : UInt64
  layerCount : UInt32 := 1

def privFlagsUsesIon : UInt32 := 0x00000008

def privFlagsInternalOnly : UInt32 := 0x00000040

def privFlagsNonCpuWriter : UInt32 := 0x00000080

def privFlagsCached : UInt32 := 0x00000200

def privFlagsSecureBuffer : UInt32 := 0x00000400

def privFlagsExternalOnly : UInt32 := 0x00002000

def privFlagsVideoEncoder : UInt32 := 0x00010000

def privFlagsCameraWrite : UInt32 := 0x00020000

def privFlagsCameraRead : UInt32 := 0x00040000

def privFlagsHwComposer : UInt32 := 0x00080000

def privFlagsHwTexture : UInt32 := 0x00100000

def privFlagsSecureDisplay : UInt32 := 0x01000000

def privFlagsCpuRendered : UInt32 := 0x04000000

def privFlagsUbwcAligned : UInt32 := 0x08000000

def privFlagsDispConsumer : UInt32 := 0x10000000

/-- A flag that is set under a condition. -/
def flagIf (condition : Bool) (flag : UInt32) : UInt32 :=
  if condition then flag else 0

def getBufferType (inputFormat : PixelFormat) : BufferType :=
  if isUncompressedRGBFormat inputFormat then .ui else .video

namespace Platform

variable (p : Platform)

/-- Buffers are cached unless the client asks otherwise or touches them rarely. -/
def useUncached (prodUsage consUsage : UInt64) : Bool :=
  has prodUsage p.producer.privateUncached || has prodUsage p.producer.protectedContent ||
    (has prodUsage p.producer.cpuRead && !has prodUsage p.producer.cpuReadOften) ||
    (has prodUsage p.producer.cpuWrite && !has prodUsage p.producer.cpuWriteOften) ||
    has prodUsage p.producer.sensorDirectData || has consUsage p.consumer.gpuDataBuffer

/-- Heap, allocation type and flags of an ion allocation. -/
structure IonHeapInfo where
  heapId : UInt32
  allocType : UInt32
  flags : UInt32
deriving DecidableEq

/-- The heap and flags of protected content, or the system heap instead of the secure MM heap. -/
def secureHeap (prodUsage consUsage : UInt64) : UInt32 × UInt32 :=
  if has prodUsage p.producer.protectedContent then
    if has consUsage privateSecureDisplay then (p.ion.sdHeap, p.ion.sdFlags)
    else if has prodUsage p.producer.camera then
      (p.ion.sdHeap,
        if has consUsage p.consumer.hwcomposer then p.ion.scPreviewFlags else p.ion.scFlags)
    else (p.ion.cpHeap, p.ion.cpFlags)
  else if has prodUsage p.producer.privateMmHeap then (p.ion.systemHeap, 0)
  else (0, 0)

def getIonHeapInfo (prodUsage consUsage : UInt64) : IonHeapInfo :=
  let secure := p.secureHeap prodUsage consUsage
  let heapId := secure.1 |||
    flagIf (has prodUsage p.producer.privateCameraHeap) p.ion.cameraHeap |||
    flagIf (has prodUsage p.producer.privateAdspHeap ||
      has prodUsage p.producer.sensorDirectData) p.ion.adspHeap
  { heapId := if heapId = 0 then p.ion.systemHeap else heapId
    allocType := flagIf (secure.2 &&& p.ion.secure != 0) privFlagsSecureBuffer
    flags := secure.2 }

/-- The format the allocator chooses for the two formats that leave the choice to it. -/
def getImplDefinedFormat (prodUsage consUsage : UInt64) (format : PixelFormat) : PixelFormat :=
  match format with
  | .implementationDefined | .yCbCr420Flexible =>
    if has prodUsage p.producer.privateAllocUbwc then .yCbCr420SpVenusUbwc
    else if has consUsage p.consumer.videoEncoder then .nv12Encodeable
    else if has consUsage p.consumer.camera then
      if has prodUsage p.producer.camera then .nv21Zsl else .yCrCb420Sp
    else if has prodUsage p.producer.camera then
      match format, p.preview with
      | .yCbCr420Flexible, _ => .nv21Zsl
      | _, .yCrCb => .yCrCb420Sp
      | _, .yCrCbVenus => .yCrCb420SpVenus
      | _, .default => .yCbCr420SpVenus
    else if has consUsage p.consumer.hwcomposer then .rgba8888
    else match format with
      | .yCbCr420Flexible => .nv21Zsl
      | _ => format
  | _ => format

def getHandleFlags (format : PixelFormat) (prodUsage consUsage : UInt64) : UInt32 :=
  flagIf (has consUsage privateExternalOnly) privFlagsExternalOnly |||
  flagIf (has consUsage privateInternalOnly) privFlagsInternalOnly |||
  flagIf (has consUsage p.consumer.videoEncoder) privFlagsVideoEncoder |||
  flagIf (has prodUsage p.producer.camera) privFlagsCameraWrite |||
  -- Two consumer bits are looked up in the producer usage.
  flagIf (has prodUsage p.consumer.camera) privFlagsCameraRead |||
  flagIf (has consUsage p.consumer.hwcomposer) privFlagsHwComposer |||
  flagIf (has prodUsage p.consumer.gpuTexture) privFlagsHwTexture |||
  flagIf (has consUsage privateSecureDisplay) privFlagsSecureDisplay |||
  flagIf (p.isUBwcEnabled format prodUsage consUsage) privFlagsUbwcAligned |||
  flagIf (has prodUsage (p.producer.cpuRead ||| p.producer.cpuWrite)) privFlagsCpuRendered |||
  flagIf (has consUsage (p.consumer.videoEncoder ||| p.consumer.clientTarget) ||
    has prodUsage (p.producer.camera ||| p.producer.gpuRenderTarget)) privFlagsNonCpuWriter |||
  flagIf (has consUsage p.consumer.hwcomposer) privFlagsDispConsumer |||
  flagIf (!p.useUncached prodUsage consUsage) privFlagsCached

/-- The request of a descriptor with its own number of layers. -/
def allocationInfo (d : BufferDescriptor) : BufferInfo :=
  { getBufferInfo d with layerCount := d.layerCount.toInt32 }

/-- The handle `AllocateBuffer` creates once main and metadata memory are there. -/
def allocatedHandle (d : BufferDescriptor) (fd fdMetadata : Int32) (bufferSize : UInt32)
    (id : UInt64) : PrivateHandle :=
  let dimensions := p.getBufferSizeAndDimensions (allocationInfo d)
  let size := dimensions.1.value
  let allocType := (p.getIonHeapInfo d.producerUsage d.consumerUsage).allocType
  { fd := fd
    fdMetadata := fdMetadata
    flags := p.getHandleFlags d.format d.producerUsage d.consumerUsage |||
      (allocType ||| privFlagsUsesIon)
    width := dimensions.2.1.value.toInt32
    height := dimensions.2.2.value.toInt32
    unalignedWidth := d.width
    unalignedHeight := d.height
    format := d.format
    bufferType := getBufferType (p.getImplDefinedFormat d.producerUsage d.consumerUsage d.format)
    size := if size ≤ bufferSize then bufferSize else size
    id := id
    producerUsage := d.producerUsage
    consumerUsage := d.consumerUsage
    layerCount := d.layerCount }

end Platform

end Yoshino.Gralloc
