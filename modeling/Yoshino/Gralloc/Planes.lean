import Yoshino.Gralloc.Handles

/-!
# Where the planes of a buffer are

The addresses and strides `GetYUVPlaneInfo` reports for a handle, and the address of the pixels of
an RGB buffer behind its compression metadata.
-/

namespace Yoshino.Gralloc

open Yoshino.Library

/-- What a client reads about the planes of a buffer. -/
structure AndroidYcbcr where
  y : Tracked UInt64
  cb : Tracked UInt64
  cr : Tracked UInt64
  ystride : Tracked UInt32
  cstride : Tracked UInt32
  /-- None where the field is left as it was. -/
  chromaStep : Option Nat

/-- The metadata of a buffer that changes how its planes are reported. -/
structure MetaData where
  linearFormat : Option PixelFormat := none
  bufferGeometry : Option (Int32 × Int32) := none
  interlaced : Option Int32 := none

/-- An address that is an offset further. -/
def displace (address : Tracked UInt64) (offset : Tracked UInt32) : Tracked UInt64 :=
  ⟨address.value + offset.value.toUInt64, address.exact && offset.exact⟩

/-- An address lies its offset behind the base. -/
theorem displace_sub (base : UInt64) (offset : Tracked UInt32) :
    ((displace (.of base) offset).value - base).toNat = offset.value.toNat := by
  have hcancel : base + offset.value.toUInt64 - base = offset.value.toUInt64 := by
    rw [UInt64.add_comm, UInt64.add_sub_cancel]
  rw [← UInt32.toNat_toUInt64, ← hcancel]
  rfl

/-- Two offsets after each other add up. -/
theorem displace_displace_sub (base : UInt64) (first second : Tracked UInt32) :
    ((displace (displace (.of base) first) second).value - base).toNat =
      first.value.toNat + second.value.toNat := by
  have hcancel : base + first.value.toUInt64 + second.value.toUInt64 - base =
      first.value.toUInt64 + second.value.toUInt64 := by
    rw [UInt64.add_assoc, UInt64.add_comm, UInt64.add_sub_cancel]
  have hfirst := first.value.toNat_lt
  have hsecond := second.value.toNat_lt
  calc ((displace (displace (.of base) first) second).value - base).toNat
      = (first.value.toUInt64 + second.value.toUInt64).toNat := congrArg UInt64.toNat hcancel
    _ = first.value.toNat + second.value.toNat := by
        rw [UInt64.toNat_add, UInt32.toNat_toUInt64, UInt32.toNat_toUInt64,
          Nat.mod_eq_of_lt (by omega)]

def getYuvSPPlaneInfo (base : UInt64) (width height bpp : Tracked UInt32) : AndroidYcbcr :=
  let stride := width * bpp
  let chroma := displace (.of base) (stride * height)
  { y := .of base
    cb := chroma
    cr := displace chroma 1
    ystride := stride
    cstride := stride
    chromaStep := some (2 * bpp.value.toNat) }

/-- The two chroma addresses the other way round. -/
def AndroidYcbcr.swapChroma (planes : AndroidYcbcr) : AndroidYcbcr :=
  { planes with cb := planes.cr, cr := planes.cb }

def getYV12PlaneInfo (base : UInt64) (width height : Tracked UInt32) : AndroidYcbcr :=
  let cstride := (width / 2).align 16
  let first := displace (.of base) (width * height)
  { y := .of base
    cr := first
    cb := displace first (cstride * height / 2)
    ystride := width
    cstride := cstride
    chromaStep := some 1 }

namespace Platform

variable (p : Platform)

/-- The four planes are luma metadata, luma, chroma metadata and chroma. -/
def getYuvUbwcSPPlaneInfo (base : Tracked UInt64) (width height : Tracked UInt32)
    (color : ColorFormat) : AndroidYcbcr :=
  let w := width.value.toInt32
  let h := height.value.toInt32
  let plane (stride scanlines : ColorFormat → Int32 → UInt32) : Tracked UInt32 :=
    (Tracked.of (stride color w) * .of (scanlines color h)).align 4096
  let yMetaSize := plane p.venus.yMetaStride p.venus.yMetaScanlines
  let ySize := plane p.venus.yStride p.venus.yScanlines
  let cMetaSize := plane p.venus.uvMetaStride p.venus.uvMetaScanlines
  let y := displace base yMetaSize
  let cb := displace (displace y ySize) cMetaSize
  { y := y
    cb := cb
    cr := displace cb 1
    ystride := .of (p.venus.yStride color w)
    cstride := .of (p.venus.uvStride color w)
    chromaStep := none }

/-- The two fields of an interlaced buffer, each with half the height. -/
def getYuvUbwcInterlacedSPPlaneInfo (base : UInt64) (width height : Tracked UInt32)
    (color : ColorFormat) : AndroidYcbcr × AndroidYcbcr :=
  let field := (height + 1) / 2
  let uvSize := (Tracked.of (p.venus.uvStride color width.value.toInt32) *
    .of (p.venus.uvScanlines color field.value.toInt32)).align 4096
  let top := p.getYuvUbwcSPPlaneInfo (.of base) width field .nv12Ubwc
  (top, p.getYuvUbwcSPPlaneInfo (displace top.cb uvSize) width field .nv12Ubwc)

/-- The planes of a handle, two entries for an interlaced buffer, none for an invalid format. -/
def getYUVPlaneInfo (hnd : PrivateHandle) (metaData : MetaData) : Option (List AndroidYcbcr) :=
  let format := metaData.linearFormat.getD hnd.format
  let dimensions := match metaData.bufferGeometry with
    | none => (Tracked.of hnd.width.toUInt32, Tracked.of hnd.height.toUInt32)
    | some slice => p.getAlignedWidthAndHeight
        { width := slice.1, height := slice.2, format := format
          prodUsage := hnd.producerUsage, consUsage := hnd.consumerUsage }
  let interlaceFlag : Int32 := 0
  -- The flag is looked at only when reading it failed, and it is zero then.
  let interlaced := match metaData.interlaced with
    | none => interlaceFlag != 0
    | some _ => false
  let width := dimensions.1
  let height := dimensions.2
  match format with
  | .yCbCr420Sp | .yCbCr422Sp | .yCbCr420SpVenus | .nv12Encodeable =>
    some [getYuvSPPlaneInfo hnd.base width height 1]
  | .yCbCr420P010 => some [getYuvSPPlaneInfo hnd.base width height 2]
  | .yCbCr420SpVenusUbwc =>
    if !interlaced then
      some [{ p.getYuvUbwcSPPlaneInfo (.of hnd.base) width height .nv12Ubwc with
        chromaStep := some 2 }]
    else
      let fields := p.getYuvUbwcInterlacedSPPlaneInfo hnd.base width height .nv12Ubwc
      some [{ fields.1 with chromaStep := some 2 }, fields.2]
  | .yCbCr420Tp10Ubwc =>
    some [{ p.getYuvUbwcSPPlaneInfo (.of hnd.base) width height .nv12Bpp10Ubwc with
      chromaStep := some 3 }]
  | .yCbCr420P010Ubwc =>
    some [{ p.getYuvUbwcSPPlaneInfo (.of hnd.base) width height .p010Ubwc with
      chromaStep := some 4 }]
  | .yCrCb420Sp | .yCrCb422Sp | .yCrCb420SpAdreno | .yCrCb420SpVenus | .nv21Zsl | .raw16 | .y16
  | .raw10 | .raw8 | .y8 => some [(getYuvSPPlaneInfo hnd.base width height 1).swapChroma]
  | .yv12 => some [getYV12PlaneInfo hnd.base width height]
  | .cbYCrY422I =>
    some [{ y := .of hnd.base, cb := .of 0, cr := .of 0, ystride := width * 2, cstride := 0
            chromaStep := some 0 }]
  | _ => none

end Platform

/-- The address of the pixels and whether there was an error, none where no address is written. -/
def getRgbDataAddress (hnd : PrivateHandle) : Option (Tracked UInt64 × Bool) :=
  if !isUncompressedRGBFormat hnd.format then none
  else if hnd.flags &&& privFlagsUbwcAligned = 0 then some (.of hnd.base, false)
  else
    let bpp := getBppForUncompressedRGB hnd.format
    match hnd.format with
    | .bgr565 | .rgba8888 | .rgbx8888 | .rgba1010102 | .rgbx1010102 =>
      some (displace (.of hnd.base)
        (Platform.getRgbUBwcMetaBufferSize (.of hnd.width) (.of hnd.height) bpp), false)
    | _ => some (displace (.of hnd.base) 0, true)

end Yoshino.Gralloc
