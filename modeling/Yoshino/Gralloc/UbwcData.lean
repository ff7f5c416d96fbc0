import Yoshino.Gralloc.Planes

/-!
# The pixels of a compressed RGB buffer

A compressed RGB buffer starts with its metadata. The allocation counts the metadata of the
requested dimensions, the address of the pixels is computed from the aligned ones. The two agree
because rounding to blocks, groups of blocks and pages forgets a finer rounding before it.
-/

namespace Yoshino.Gralloc

open Yoshino.Library

/-- The bytes of metadata of an image of blocks of 16 by 4 pixels, in groups of 64 by 16 blocks. -/
def metaBytes (width height : Nat) : Nat :=
  roundUp (roundUp ((width + 15) / 16) 64 * roundUp ((height + 3) / 4) 16) 4096

/-- Rounding the dimensions inside the groups of blocks leaves the metadata as it is. -/
theorem metaBytes_roundUp {a b : Nat} (ha : a ∣ 1024) (hb : b ∣ 64) (width height : Nat) :
    metaBytes (roundUp width a) (roundUp height b) = metaBytes width height := by
  have hwidth : roundUp ((roundUp width a + 15) / 16) 64 = roundUp ((width + 15) / 16) 64 :=
    blocks_roundUp width 16 64 (by decide) (by decide) ha
  have hheight : roundUp ((roundUp height b + 3) / 4) 16 = roundUp ((height + 3) / 4) 16 :=
    blocks_roundUp height 4 16 (by decide) (by decide) hb
  rw [metaBytes, hwidth, hheight, metaBytes]

/-- The metadata has more bytes than a row has pixels, and sixteen for each row. -/
theorem le_metaBytes {width height : Nat} (hwidth : 0 < width) (hheight : 0 < height) :
    width ≤ metaBytes width height ∧ 16 * height ≤ metaBytes width height := by
  have hgroup {n a : Nat} (hn : 0 < n) (ha : 0 < a) : a ≤ roundUp n a :=
    Nat.le_of_dvd (hn.trans_le (le_roundUp n ha)) (dvd_roundUp n a)
  have hblocksWide := le_roundUp ((width + 15) / 16) (a := 64) (by decide)
  have hblocksHigh := le_roundUp ((height + 3) / 4) (a := 16) (by decide)
  have hwide := hgroup (n := (width + 15) / 16) (a := 64) (by omega) (by decide)
  have hhigh := hgroup (n := (height + 3) / 4) (a := 16) (by omega) (by decide)
  have hpage := le_roundUp (roundUp ((width + 15) / 16) 64 * roundUp ((height + 3) / 4) 16)
    (a := 4096) (by decide)
  have hrow := Nat.mul_le_mul hblocksWide hhigh
  have hcolumn := Nat.mul_le_mul hwide hblocksHigh
  rw [metaBytes]
  omega

/-- Blocks are counted and grouped without overflow. -/
theorem blocks_hasValue {value : Int32} {block group : Tracked Int32} {b k : Nat}
    (hnonneg : 0 ≤ value.toInt) (hblock : block.HasValue b) (hb : 0 < b)
    (hgroup : group.HasValue (2 ^ k)) (hfit : value.toInt + b + 2 ^ k < 2 ^ 31) :
    (((Tracked.of value + block - 1) / block).align group).HasValue
      (roundUp ((value.toInt.toNat + b - 1) / b) (2 ^ k)) := by
  have hcast : ((2 ^ k : Nat) : Int) = 2 ^ k := Nat.cast_pow 2 k
  have hpos : 0 < 2 ^ k := Nat.two_pow_pos k
  have hone : (1 : Tracked Int32).HasValue 1 := rfl
  have hupper {n : Nat} (h : n < 2 ^ 31) : (n : Int) < FixedWidth.upper Int32 := by
    change (n : Int) < 2 ^ 31
    omega
  have hvalue : (Tracked.of value).HasValue value.toInt.toNat := (Int.toNat_of_nonneg hnonneg).symm
  have hle : (value.toInt.toNat + b - 1) / b ≤ value.toInt.toNat + b - 1 := Nat.div_le_self _ _
  have hcount : ((Tracked.of value + block - 1) / block).HasValue
      ((value.toInt.toNat + b - 1) / b) :=
    ((hvalue.add hblock (hupper (by omega))).sub hone (by omega) (hupper (by omega))).div hblock hb
  generalize (value.toInt.toNat + b - 1) / b = count at hle hcount ⊢
  exact Tracked.HasValue.align
    ((hcount.add hgroup (hupper (by omega))).sub hone (by omega) (hupper (by omega)))
    (hgroup.sub hone (by omega) (hupper (by omega)))

/-- The metadata size of dimensions, also where the signed product behind it wraps. -/
theorem getRgbUBwcMetaBufferSize_value {width height : Int32} {bpp : UInt32}
    (hbpp : bpp = 2 ∨ bpp = 4) (hwidth : 0 < width.toInt) (hheight : 0 < height.toInt)
    (hwide : width.toInt + 16 + 64 < 2 ^ 31) (hhigh : height.toInt + 4 + 16 < 2 ^ 31)
    (hfit : metaBytes width.toInt.toNat height.toInt.toNat < 2 ^ 32) :
    (Platform.getRgbUBwcMetaBufferSize (.of width) (.of height) bpp).value.toNat =
      metaBytes width.toInt.toNat height.toInt.toNat := by
  have hblock : Platform.getRgbUBwcBlockSize bpp = (16, 4) := if_pos hbpp
  have hmetaWidth : (((Tracked.of width + .of 16 - 1) / .of 16).align 64).HasValue
      (roundUp ((width.toInt.toNat + 15) / 16) 64) :=
    blocks_hasValue (b := 16) (k := 6) hwidth.le rfl (by decide) rfl hwide
  have hmetaHeight : (((Tracked.of height + .of 4 - 1) / .of 4).align 16).HasValue
      (roundUp ((height.toInt.toNat + 3) / 4) 16) :=
    blocks_hasValue (b := 4) (k := 4) hheight.le rfl (by decide) rfl hhigh
  generalize hcolumns : ((Tracked.of width + .of 16 - 1) / .of 16).align 64 = columns at hmetaWidth
  generalize hrows : ((Tracked.of height + .of 4 - 1) / .of 4).align 16 = rows at hmetaHeight
  have hvalue : (Platform.getRgbUBwcMetaBufferSize (.of width) (.of height) bpp).value =
      (columns.value.toUInt32 * rows.value.toUInt32 + 4096 - 1) &&& ~~~(4096 - 1) := by
    simp only [Platform.getRgbUBwcMetaBufferSize, hblock, hcolumns, hrows]
    rfl
  have hbits {x : Tracked Int32} {n : Nat} (hx : x.HasValue n) : x.value.toUInt32.toNat = n := by
    have hx : x.value.toInt = n := hx
    have := (toInt_eq_toNat_of_nonneg (a := x.value) (by omega)).1
    change x.value.toBitVec.toNat = n
    omega
  have hproduct : (columns.value.toUInt32 * rows.value.toUInt32).toNat =
      roundUp ((width.toInt.toNat + 15) / 16) 64 * roundUp ((height.toInt.toNat + 3) / 4) 16 := by
    have hle := le_roundUp (roundUp ((width.toInt.toNat + 15) / 16) 64 *
      roundUp ((height.toInt.toNat + 3) / 4) 16) (a := 4096) (by decide)
    rw [UInt32.toNat_mul, hbits hmetaWidth, hbits hmetaHeight]
    exact Nat.mod_eq_of_lt (hle.trans_lt hfit)
  rw [hvalue, Tracked.toNat_align (k := 12) rfl (by rw [hproduct]; exact hfit), hproduct]
  rfl

/-- The RGB formats that are ever compressed. -/
theorem ubwcRgb_cases {p : Platform} {format : PixelFormat} {prodUsage consUsage : UInt64}
    (hrgb : isUncompressedRGBFormat format = true)
    (hubwc : p.isUBwcEnabled format prodUsage consUsage = true) :
    format = .bgr565 ∨ format = .rgba8888 ∨ format = .rgbx8888 ∨ format = .rgba1010102 ∨
      format = .rgbx1010102 := by
  have hexplicit : isUBwcFormat format = false := by
    cases format <;> first | rfl | exact absurd hrgb Bool.false_ne_true
  have hsupported : isUBwcSupported format = true := by
    by_contra hnot
    rw [Bool.not_eq_true] at hnot
    simp [Platform.isUBwcEnabled, hexplicit, hnot] at hubwc
  cases format <;> first
    | exact absurd hsupported Bool.false_ne_true
    | exact absurd hrgb Bool.false_ne_true
    | simp

section CompressedRgb

variable {p : Platform} {d : BufferDescriptor} (hrgb : isUncompressedRGBFormat d.format = true)
  (hubwc : p.isUBwcEnabled d.format d.producerUsage d.consumerUsage = true)

include hrgb hubwc in
/-- A compressed RGB format has two or four bytes a pixel. -/
theorem bpp_of_ubwcRgb :
    getBppForUncompressedRGB d.format = 2 ∨ getBppForUncompressedRGB d.format = 4 := by
  obtain h | h | h | h | h := ubwcRgb_cases hrgb hubwc <;> rw [h] <;> decide

include hrgb hubwc in
/-- The size of a compressed RGB buffer is that of its pixels and of its metadata, aligned, for each
layer. -/
theorem getSize_of_ubwcRgb (alignedw alignedh : Tracked UInt32) :
    p.getSize (Platform.allocationInfo d) alignedw alignedh =
      (alignedw * alignedh * .of (getBppForUncompressedRGB d.format) +
        Platform.getRgbUBwcMetaBufferSize (.of d.width) (.of d.height)
          (getBppForUncompressedRGB d.format)).align
            (.of (p.getDataAlignment d.format d.producerUsage d.consumerUsage)) *
        (Tracked.of d.layerCount.toInt32).toUInt32 := by
  have hsize : p.getUBwcSize d.width d.height d.format alignedw alignedh =
      alignedw * alignedh * .of (getBppForUncompressedRGB d.format) +
        Platform.getRgbUBwcMetaBufferSize (.of d.width) (.of d.height)
          (getBppForUncompressedRGB d.format) := by
    obtain h | h | h | h | h := ubwcRgb_cases hrgb hubwc <;> rw [h] <;> rfl
  have henabled : p.isUBwcEnabled (Platform.allocationInfo d).format
      (Platform.allocationInfo d).prodUsage (Platform.allocationInfo d).consUsage = true := hubwc
  rw [← hsize]
  simp only [Platform.getSize, henabled, if_true]
  rfl

/-- A bit of either side is a bit of both together. -/
theorem or_and_ne_zero {x y bit : UInt32} (h : x &&& bit ≠ 0 ∨ y &&& bit ≠ 0) :
    (x ||| y) &&& bit ≠ 0 := by
  intro hzero
  have hnat := congrArg UInt32.toNat hzero
  rw [UInt32.toNat_and, UInt32.toNat_or, Nat.and_or_distrib_right] at hnat
  obtain ⟨hx, hy⟩ := Nat.or_eq_zero_iff.mp hnat
  rw [← UInt32.toNat_and] at hx hy
  exact h.elim (fun hne => hne (UInt32.toNat_inj.mp hx)) (fun hne => hne (UInt32.toNat_inj.mp hy))

include hubwc in
/-- A compressed buffer is marked as one in its handle. -/
theorem ubwcAligned_of_enabled :
    p.getHandleFlags d.format d.producerUsage d.consumerUsage &&& privFlagsUbwcAligned ≠ 0 := by
  have hbit : flagIf (p.isUBwcEnabled d.format d.producerUsage d.consumerUsage) privFlagsUbwcAligned &&&
      privFlagsUbwcAligned ≠ 0 := by
    rw [hubwc]
    decide
  -- Four further flags are added behind this one.
  exact or_and_ne_zero (.inl (or_and_ne_zero (.inl (or_and_ne_zero (.inl (or_and_ne_zero (.inl
    (or_and_ne_zero (.inr hbit)))))))))

include hrgb hubwc in
/-- The pixels of a compressed RGB buffer begin behind its metadata. -/
theorem getRgbDataAddress_of_ubwcRgb {hnd : PrivateHandle} (hformat : hnd.format = d.format)
    (hflags : hnd.flags &&& privFlagsUbwcAligned ≠ 0) :
    getRgbDataAddress hnd = some (displace (.of hnd.base)
      (Platform.getRgbUBwcMetaBufferSize (.of hnd.width) (.of hnd.height)
        (getBppForUncompressedRGB d.format)), false) := by
  unfold getRgbDataAddress
  rw [hformat, hrgb]
  simp only [Bool.not_true, Bool.false_eq_true, if_false, hflags]
  obtain h | h | h | h | h := ubwcRgb_cases hrgb hubwc <;> rw [h]

end CompressedRgb

/-- Dimensions whose pixels and metadata fit in 32 bits are far from the signed range. -/
theorem dimensions_lt {aw ah bpp w h : Nat} (hbpp : 2 ≤ bpp) (haw : 0 < aw) (hah : 0 < ah)
    (hmeta : metaBytes aw ah = metaBytes w h) (hfit : aw * ah * bpp + metaBytes w h < 2 ^ 32) :
    aw + 16 + 64 < 2 ^ 31 ∧ ah + 4 + 16 < 2 ^ 31 := by
  obtain ⟨hwide, hhigh⟩ := le_metaBytes haw hah
  have harea : aw ≤ aw * ah := Nat.le_mul_of_pos_right aw hah
  have hbytes := Nat.mul_le_mul_left (aw * ah) hbpp
  omega

/-- The metadata sizes of the requested and of the aligned dimensions. -/
theorem metaBufferSize_value {width height : Int32} {alignedw alignedh bpp : UInt32} {a b : Nat}
    (ha : a ∣ 1024) (hb : b ∣ 64) (hbpp : bpp = 2 ∨ bpp = 4) (hwidth : 0 < width.toInt)
    (hheight : 0 < height.toInt) (halignedw : alignedw.toNat = roundUp width.toInt.toNat a)
    (halignedh : alignedh.toNat = roundUp height.toInt.toNat b)
    (hfit : alignedw.toNat * alignedh.toNat * bpp.toNat +
      metaBytes width.toInt.toNat height.toInt.toNat < 2 ^ 32) :
    (Platform.getRgbUBwcMetaBufferSize (.of width) (.of height) bpp).value.toNat =
        metaBytes width.toInt.toNat height.toInt.toNat ∧
      (Platform.getRgbUBwcMetaBufferSize (.of alignedw.toInt32) (.of alignedh.toInt32) bpp).value.toNat =
        metaBytes width.toInt.toNat height.toInt.toNat := by
  have hbppTwo : 2 ≤ bpp.toNat := by
    obtain rfl | rfl := hbpp <;> decide
  have haw := le_roundUp width.toInt.toNat (Nat.pos_of_dvd_of_pos ha (by decide))
  have hah := le_roundUp height.toInt.toNat (Nat.pos_of_dvd_of_pos hb (by decide))
  have hmeta := metaBytes_roundUp ha hb width.toInt.toNat height.toInt.toNat
  rw [← halignedw, ← halignedh] at hmeta
  rw [← halignedw] at haw
  rw [← halignedh] at hah
  obtain ⟨hwide, hhigh⟩ := dimensions_lt hbppTwo (by omega) (by omega) hmeta hfit
  constructor
  · exact getRgbUBwcMetaBufferSize_value hbpp hwidth hheight (by omega) (by omega) (by omega)
  · have hwidthInt : alignedw.toInt32.toInt = alignedw.toNat := Tracked.toInt_toInt32 (by omega)
    have hheightInt : alignedh.toInt32.toInt = alignedh.toNat := Tracked.toInt_toInt32 (by omega)
    have hbytes : metaBytes alignedw.toInt32.toInt.toNat alignedh.toInt32.toInt.toNat =
        metaBytes width.toInt.toNat height.toInt.toNat := by
      rw [hwidthInt, hheightInt, Int.toNat_natCast, Int.toNat_natCast, hmeta]
    rw [← hbytes]
    exact getRgbUBwcMetaBufferSize_value hbpp (by omega) (by omega) (by omega) (by omega) (by omega)

/-- The size of a single layer is pixels and metadata, rounded up to the data alignment. -/
theorem getSize_value {p : Platform} {d : BufferDescriptor} {k area : Nat}
    (hrgb : isUncompressedRGBFormat d.format = true)
    (hubwc : p.isUBwcEnabled d.format d.producerUsage d.consumerUsage = true)
    (hlayers : d.layerCount = 1)
    (halign : (p.getDataAlignment d.format d.producerUsage d.consumerUsage).toNat = 2 ^ k)
    {alignedw alignedh : Tracked UInt32} {metaSize : Nat}
    (hmeta : (Platform.getRgbUBwcMetaBufferSize (.of d.width) (.of d.height)
      (getBppForUncompressedRGB d.format)).value.toNat = metaSize)
    (harea : alignedw.value.toNat * alignedh.value.toNat * (getBppForUncompressedRGB d.format).toNat =
      area)
    (hfit : roundUp (area + metaSize) (2 ^ k) < 2 ^ 32) :
    (p.getSize (Platform.allocationInfo d) alignedw alignedh).value.toNat =
      roundUp (area + metaSize) (2 ^ k) := by
  have hle := le_roundUp (area + metaSize) (Nat.two_pow_pos k)
  have hproduct : (alignedw.value * alignedh.value * getBppForUncompressedRGB d.format).toNat =
      area := by
    rw [UInt32.toNat_mul, UInt32.toNat_mul, Nat.mod_mul_mod, harea]
    exact Nat.mod_eq_of_lt (by omega)
  have hsum : (alignedw.value * alignedh.value * getBppForUncompressedRGB d.format +
      (Platform.getRgbUBwcMetaBufferSize (.of d.width) (.of d.height)
        (getBppForUncompressedRGB d.format)).value).toNat = area + metaSize := by
    rw [UInt32.toNat_add, hproduct, hmeta]
    exact Nat.mod_eq_of_lt (by omega)
  have hround := Tracked.toNat_align halign (by rw [hsum]; exact hfit)
  rw [hsum] at hround
  rw [getSize_of_ubwcRgb hrgb hubwc, hlayers, ← hround]
  exact congrArg UInt32.toNat (UInt32.mul_one _)

/-- The pixels of a compressed RGB buffer start behind all of its metadata and end inside it. -/
theorem getRgbDataAddress_inside (p : Platform) (d : BufferDescriptor) {a b : Nat} (ha : a ∣ 1024)
    (hb : b ∣ 64) (hrgb : isUncompressedRGBFormat d.format = true)
    (hubwc : p.isUBwcEnabled d.format d.producerUsage d.consumerUsage = true)
    (hlayers : d.layerCount = 1) (hwidth : 0 < d.width.toInt) (hheight : 0 < d.height.toInt)
    (halignedw : (p.getAlignedWidthAndHeight (Platform.allocationInfo d)).1.value.toNat =
      roundUp d.width.toInt.toNat a)
    (halignedh : (p.getAlignedWidthAndHeight (Platform.allocationInfo d)).2.value.toNat =
      roundUp d.height.toInt.toNat b)
    (hfit : roundUp (roundUp d.width.toInt.toNat a * roundUp d.height.toInt.toNat b *
        (getBppForUncompressedRGB d.format).toNat + metaBytes d.width.toInt.toNat d.height.toInt.toNat)
      (p.getDataAlignment d.format d.producerUsage d.consumerUsage).toNat < 2 ^ 32)
    (fd fdMetadata : Int32) (bufferSize : UInt32) (id base : UInt64) :
    ∃ address,
      getRgbDataAddress { p.allocatedHandle d fd fdMetadata bufferSize id with base := base } =
        some (address, false) ∧
      (address.value - base).toNat =
        (Platform.getRgbUBwcMetaBufferSize (.of d.width) (.of d.height)
          (getBppForUncompressedRGB d.format)).value.toNat ∧
      (address.value - base).toNat +
          (p.getAlignedWidthAndHeight (Platform.allocationInfo d)).1.value.toNat *
          (p.getAlignedWidthAndHeight (Platform.allocationInfo d)).2.value.toNat *
          (getBppForUncompressedRGB d.format).toNat ≤
        (p.getBufferSizeAndDimensions (Platform.allocationInfo d)).1.value.toNat := by
  obtain ⟨k, -, halign⟩ := getDataAlignment_eq p d.format d.producerUsage d.consumerUsage
  rw [halign, ← halignedw, ← halignedh] at hfit
  have hround := le_roundUp ((p.getAlignedWidthAndHeight (Platform.allocationInfo d)).1.value.toNat *
    (p.getAlignedWidthAndHeight (Platform.allocationInfo d)).2.value.toNat *
      (getBppForUncompressedRGB d.format).toNat +
    metaBytes d.width.toInt.toNat d.height.toInt.toNat) (Nat.two_pow_pos k)
  obtain ⟨hunaligned, haligned⟩ := metaBufferSize_value ha hb (bpp_of_ubwcRgb hrgb hubwc) hwidth
    hheight halignedw halignedh (hround.trans_lt hfit)
  have hsize := getSize_value hrgb hubwc hlayers halign hunaligned rfl hfit
  have hoffset := (displace_sub base _).trans haligned
  refine ⟨_, getRgbDataAddress_of_ubwcRgb hrgb hubwc rfl ?_, hoffset.trans hunaligned.symm, ?_⟩
  · exact or_and_ne_zero (.inl (ubwcAligned_of_enabled hubwc))
  · rw [Nat.add_comm]
    exact (congrArg _ hoffset).le.trans (hround.trans hsize.symm.le)

/-- A compressed RGBA buffer of 1080 by 1920 pixels, aligned without the Adreno library. -/
theorem getRgbDataAddress_inside_1080 :
    ∃ address,
      getRgbDataAddress
          { Platform.plain.allocatedHandle
              { width := 1080, height := 1920, format := .rgba8888, producerUsage := 0x10000000 }
              5 6 0 1 with base := 0x7000 } = some (address, false) ∧
      (address.value - 0x7000).toNat = 61440 ∧
      (address.value - 0x7000).toNat + 1088 * 1920 * 4 ≤ 8417280 := by
  obtain ⟨address, haddress, hoffset, hinside⟩ := getRgbDataAddress_inside .plain
    { width := 1080, height := 1920, format := .rgba8888, producerUsage := 0x10000000 }
    (show 32 ∣ 1024 by decide) (show 32 ∣ 64 by decide) rfl (by decide) rfl (by decide) (by decide)
    (by decide) (by decide) (by decide) 5 6 0 1 0x7000
  exact ⟨address, haddress, hoffset.trans (by decide), hinside⟩

end Yoshino.Gralloc
