import Yoshino.Gralloc.PlaneRoom

/-!
# Which buffers contain their planes

The planes `GetYUVPlaneInfo` reports for a handle that `AllocateBuffer` made, against the size its
buffer was allocated with.
-/

namespace Yoshino.Gralloc

open Yoshino.Library LinearYuv

/-- None of the numbers that describe the planes overflowed. -/
def AndroidYcbcr.Exact (planes : AndroidYcbcr) : Prop :=
  planes.y.exact = true ∧ planes.cb.exact = true ∧ planes.cr.exact = true ∧
    planes.ystride.exact = true ∧ planes.cstride.exact = true

/-- The end of a plane, from the start of the buffer. -/
def planeEnd (base : UInt64) (address : Tracked UInt64) (stride : Tracked UInt32) (rows : Nat) : Nat :=
  (address.value - base).toNat + stride.value.toNat * rows

/-- All planes end inside the buffer. -/
def AndroidYcbcr.Inside (planes : AndroidYcbcr) (base : UInt64) (lumaRows chromaRows size : Nat) :
    Prop :=
  planeEnd base planes.y planes.ystride lumaRows ≤ size ∧
    planeEnd base planes.cb planes.cstride chromaRows ≤ size ∧
    planeEnd base planes.cr planes.cstride chromaRows ≤ size

/-- An exact address has an exact start and an exact offset. -/
theorem exact_displace {address : Tracked UInt64} {offset : Tracked UInt32}
    (h : (displace address offset).exact = true) : address.exact = true ∧ offset.exact = true :=
  (Bool.and_eq_true _ _).mp h

/-- The value of an exact number. -/
theorem toNat_of_denotes {x : Tracked UInt32} {n : Nat} (hx : x.Denotes n) (hexact : x.exact = true) :
    x.value.toNat = n :=
  Int.ofNat_inj.mp (hx hexact)

section Planes

variable {width height : Tracked UInt32} {aw ah : Nat} (haw : width.Denotes aw)
  (hah : height.Denotes ah) (base : UInt64) {lumaRows chromaRows size : Nat}

include haw hah in
/-- Semiplanar planes are inside once the second chroma address has all its rows. -/
theorem semiplanar_inside_iff {bpp : Tracked UInt32} {b : Nat} (hb : bpp.Denotes b)
    (hexact : (getYuvSPPlaneInfo base width height bpp).Exact) (hrows : lumaRows ≤ ah) :
    (getYuvSPPlaneInfo base width height bpp).Inside base lumaRows chromaRows size ↔
      aw * b * ah + aw * b * chromaRows < size := by
  obtain ⟨-, hcb, -, hstride, -⟩ := hexact
  have hstrideValue := toNat_of_denotes (haw.mul hb) hstride
  obtain ⟨-, hoffset⟩ := exact_displace hcb
  have hoffsetValue := toNat_of_denotes ((haw.mul hb).mul hah) hoffset
  have hy : planeEnd base (getYuvSPPlaneInfo base width height bpp).y
      (getYuvSPPlaneInfo base width height bpp).ystride lumaRows = aw * b * lumaRows := by
    change (base - base).toNat + (width * bpp).value.toNat * lumaRows = _
    rw [UInt64.sub_self, hstrideValue]
    exact Nat.zero_add _
  have hcbEnd : planeEnd base (getYuvSPPlaneInfo base width height bpp).cb
      (getYuvSPPlaneInfo base width height bpp).cstride chromaRows =
        aw * b * ah + aw * b * chromaRows := by
    change ((displace (.of base) (width * bpp * height)).value - base).toNat +
      (width * bpp).value.toNat * chromaRows = _
    rw [displace_sub, hoffsetValue, hstrideValue]
  have hcrEnd : planeEnd base (getYuvSPPlaneInfo base width height bpp).cr
      (getYuvSPPlaneInfo base width height bpp).cstride chromaRows =
        aw * b * ah + 1 + aw * b * chromaRows := by
    change ((displace (displace (.of base) (width * bpp * height)) 1).value - base).toNat +
      (width * bpp).value.toNat * chromaRows = _
    rw [displace_displace_sub, hoffsetValue, hstrideValue]
    rfl
  have hluma := Nat.mul_le_mul_left (aw * b) hrows
  rw [AndroidYcbcr.Inside, hy, hcbEnd, hcrEnd]
  omega

/-- The order of the chroma planes does not matter for their room. -/
theorem swapChroma_inside_iff (planes : AndroidYcbcr) :
    planes.swapChroma.Inside base lumaRows chromaRows size ↔
      planes.Inside base lumaRows chromaRows size := by
  unfold AndroidYcbcr.Inside AndroidYcbcr.swapChroma
  tauto

/-- The order of the chroma planes does not matter for overflows. -/
theorem swapChroma_exact_iff (planes : AndroidYcbcr) : planes.swapChroma.Exact ↔ planes.Exact := by
  unfold AndroidYcbcr.Exact AndroidYcbcr.swapChroma
  tauto

include haw hah in
/-- The planes of an even number of rows are inside a size that counts both chroma planes. -/
theorem yv12_inside (hexact : (getYV12PlaneInfo base width height).Exact) (heven : 2 ∣ ah)
    (hsize : aw * ah + roundUp (aw / 2) 16 * (ah / 2) * 2 ≤ size) :
    (getYV12PlaneInfo base width height).Inside base ah ((ah + 1) / 2) size := by
  obtain ⟨-, hcb, hcr, hystride, hcstride⟩ := hexact
  have hstride : ((width / 2).align 16).Denotes (roundUp (aw / 2) 16) :=
    Tracked.Denotes.align (y := 16) (k := 4) rfl (haw.div denotes_two (by decide)) fun _ => rfl
  have hwidthValue := toNat_of_denotes haw hystride
  have hstrideValue := toNat_of_denotes hstride hcstride
  have hareaValue := toNat_of_denotes (haw.mul hah) (exact_displace hcr).2
  have hplaneValue := toNat_of_denotes ((hstride.mul hah).div denotes_two (by decide))
    (exact_displace hcb).2
  have hhalf := mul_half_even (roundUp (aw / 2) 16) heven
  obtain ⟨m, rfl⟩ := heven
  rw [show (2 * m + 1) / 2 = m by omega] at hhalf ⊢
  rw [show 2 * m / 2 = m by omega] at hsize
  refine ⟨?_, ?_, ?_⟩
  · change (base - base).toNat + width.value.toNat * (2 * m) ≤ size
    rw [UInt64.sub_self, hwidthValue]
    exact (Nat.zero_add _).le.trans ((Nat.le_add_right _ _).trans hsize)
  · change ((displace (displace (.of base) (width * height)) _).value - base).toNat +
      ((width / 2).align 16).value.toNat * m ≤ size
    rw [displace_displace_sub, hareaValue, hplaneValue, hstrideValue]
    omega
  · change ((displace (.of base) (width * height)).value - base).toNat +
      ((width / 2).align 16).value.toNat * m ≤ size
    rw [displace_sub, hareaValue, hstrideValue]
    omega

end Planes

/-- The planes of a linear YUV format. -/
def LinearYuv.planes (f : LinearYuv) (base : UInt64) (width height : Tracked UInt32) : AndroidYcbcr :=
  match f with
  | yCbCr420Sp | yCbCr422Sp => getYuvSPPlaneInfo base width height 1
  | yCbCr420P010 => getYuvSPPlaneInfo base width height 2
  | yCrCb420Sp | yCrCb422Sp | nv21Zsl | yCrCb420SpAdreno =>
    (getYuvSPPlaneInfo base width height 1).swapChroma
  | yv12 => getYV12PlaneInfo base width height

/-- `GetYUVPlaneInfo` lays the planes of a linear format out by its case of the switch. -/
theorem getYUVPlaneInfo_linear (p : Platform) (f : LinearYuv) {hnd : PrivateHandle}
    (hformat : hnd.format = f.format) :
    p.getYUVPlaneInfo hnd {} =
      some [f.planes hnd.base (.of hnd.width.toUInt32) (.of hnd.height.toUInt32)] := by
  unfold Platform.getYUVPlaneInfo
  rw [Option.getD_none, hformat]
  cases f <;> rfl

/-- Semiplanar planes of every format are inside once the second chroma plane is. -/
theorem planes_inside_iff_lt (f : LinearYuv) (hplanar : f ≠ yv12) {width height : Tracked UInt32}
    {aw ah : Nat} (haw : width.Denotes aw) (hah : height.Denotes ah) (base : UInt64)
    {lumaRows chromaRows size : Nat} (hexact : (f.planes base width height).Exact)
    (hrows : lumaRows ≤ ah) :
    (f.planes base width height).Inside base lumaRows chromaRows size ↔
      aw * f.sampleBytes * ah + aw * f.sampleBytes * chromaRows < size := by
  have hone : (1 : Tracked UInt32).Denotes 1 := fun _ => rfl
  cases f with
  | yv12 => exact absurd rfl hplanar
  | yCbCr420Sp | yCbCr422Sp => exact semiplanar_inside_iff haw hah base hone hexact hrows
  | yCbCr420P010 => exact semiplanar_inside_iff haw hah base denotes_two hexact hrows
  | yCrCb420Sp | yCrCb422Sp | nv21Zsl | yCrCb420SpAdreno =>
    exact (swapChroma_inside_iff base _).trans
      (semiplanar_inside_iff haw hah base hone ((swapChroma_exact_iff _).mp hexact) hrows)

/-- A number whose lowest bit is clear is even. -/
theorem even_of_and_one {value : Int32} (hnonneg : 0 ≤ value.toInt) (h : ¬ value &&& 1 ≠ 0) :
    2 ∣ value.toInt.toNat := by
  obtain ⟨hbits, -⟩ := toInt_eq_toNat_of_nonneg hnonneg
  have hzero : (value &&& 1).toBitVec.toNat = 0 := by
    rw [not_not.mp h]
    rfl
  rw [Int32.toBitVec_and, BitVec.toNat_and] at hzero
  have hlow : value.toBitVec.toNat % 2 = 0 := (Nat.and_one_is_mod _).symm.trans hzero
  omega

/-- Aligning does not lower a height. -/
theorem le_alignedHeight (f : LinearYuv) (height : Nat) : height ≤ f.alignedHeight height := by
  cases f with
  | nv21Zsl => exact le_roundUp height (by decide)
  | _ => exact le_rfl

/-- The second chroma plane fits, or both chroma planes do, exactly for the roomy requests. -/
theorem planes_inside_iff_roomy (f : LinearYuv) {width height : Tracked UInt32} {base : UInt64}
    {gpu align layers w h : Nat} (hgpu : 0 < gpu) (halign : 0 < align) (hpage : 4096 ∣ align)
    (hlayers : 0 < layers) (hw : 0 < w) (hh : 0 < h) (hwidth : width.Denotes (f.alignedWidth gpu w))
    (hheight : height.Denotes (f.alignedHeight h)) (heven : f = yv12 → 2 ∣ h)
    (hexact : (f.planes base width height).Exact) :
    (f.planes base width height).Inside base h (f.chromaRows h)
        (roundUp (requestBytes f gpu w h) align * layers) ↔ f.Roomy gpu align layers w h := by
  have hwidthPos : 0 < f.alignedWidth gpu w := by
    have hpos : 0 < f.widthAlignment gpu := by
      cases f with
      | yCbCr420Sp | yCrCb420Sp => exact hgpu
      | _ => exact Nat.succ_pos _
    exact hw.trans_le (le_roundUp w hpos)
  by_cases hplanar : f = yv12
  · subst hplanar
    refine iff_of_true (yv12_inside hwidth hheight base hexact (heven rfl) ?_) trivial
    calc requestBytes yv12 gpu w h
        ≤ roundUp (requestBytes yv12 gpu w h) align := le_roundUp _ halign
      _ ≤ roundUp (requestBytes yv12 gpu w h) align * layers := Nat.le_mul_of_pos_right _ hlayers
  · rw [planes_inside_iff_lt f hplanar hwidth hheight base hexact (le_alignedHeight f h)]
    exact room_iff halign hlayers f hplanar hpage hwidthPos hh

/-- No 32-bit computation of the size, the dimensions and the planes of a buffer overflows. -/
structure NoOverflow (p : Platform) (d : BufferDescriptor) (planes : AndroidYcbcr) : Prop where
  size : (p.getBufferSizeAndDimensions (Platform.allocationInfo d)).1.exact = true
  width : (p.getBufferSizeAndDimensions (Platform.allocationInfo d)).2.1.exact = true
  height : (p.getBufferSizeAndDimensions (Platform.allocationInfo d)).2.2.exact = true
  planes : planes.Exact

/-- The planes of a linear YUV buffer lie inside it exactly for the roomy requests. -/
theorem getYUVPlaneInfo_inside_iff (p : Platform) (f : LinearYuv) (d : BufferDescriptor)
    (hformat : d.format = f.format) (hwidth : 0 < d.width.toInt) (hheight : 0 < d.height.toInt)
    (hgpu : ∃ k, p.getGpuPixelAlignment.toNat = 2 ^ k) (fd fdMetadata : Int32) (bufferSize : UInt32)
    (id base : UInt64) :
    ∃ planes,
      p.getYUVPlaneInfo { p.allocatedHandle d fd fdMetadata bufferSize id with base := base } {} =
        some [planes] ∧
      (NoOverflow p d planes →
        (p.getBufferSizeAndDimensions (Platform.allocationInfo d)).1.value ≠ 0 →
        (planes.Inside base d.height.toInt.toNat (f.chromaRows d.height.toInt.toNat)
            (p.getBufferSizeAndDimensions (Platform.allocationInfo d)).1.value.toNat ↔
          f.Roomy p.getGpuPixelAlignment.toNat
            (p.getDataAlignment d.format d.producerUsage d.consumerUsage).toNat
            d.layerCount.toNat d.width.toInt.toNat d.height.toInt.toNat)) := by
  obtain ⟨gpu, hgpu⟩ := hgpu
  obtain ⟨k, hk, halign⟩ := getDataAlignment_eq p d.format d.producerUsage d.consumerUsage
  refine ⟨_, getYUVPlaneInfo_linear p f hformat, fun hno hsize => ?_⟩
  have hinfo : (Platform.allocationInfo d).format = f.format := hformat
  have hdimensions := getAlignedWidthAndHeight_linear p f hinfo
  have haw : (p.getBufferSizeAndDimensions (Platform.allocationInfo d)).2.1.Denotes
      (f.alignedWidth (2 ^ gpu) d.width.toInt.toNat) := by
    change (p.getAlignedWidthAndHeight (Platform.allocationInfo d)).1.Denotes _
    rw [hdimensions]
    exact Tracked.Denotes.toUInt32 (yuvWidth_denotes p f hwidth.le hgpu)
  have hah : (p.getBufferSizeAndDimensions (Platform.allocationInfo d)).2.2.Denotes
      (f.alignedHeight d.height.toInt.toNat) := by
    change (p.getAlignedWidthAndHeight (Platform.allocationInfo d)).2.Denotes _
    rw [hdimensions]
    exact Tracked.Denotes.toUInt32 (yuvHeight_denotes p f hheight.le)
  obtain ⟨hrefused, hnonneg, hvalue⟩ :=
    getSize_denotes p f hinfo hwidth.le hheight.le hgpu hk halign hno.size hsize
  have hlayers : (Platform.allocationInfo d).layerCount.toInt.toNat = d.layerCount.toNat := by
    rw [(toInt_eq_toNat_of_nonneg hnonneg).1]
    rfl
  have hpositive : 0 < d.layerCount.toNat := by
    refine Nat.pos_of_ne_zero fun hzero => hsize (UInt32.toNat_inj.mp ?_)
    rw [hvalue, hlayers, hzero]
    rfl
  have hw : 0 < d.width.toInt.toNat := by omega
  have hh : 0 < d.height.toInt.toNat := by omega
  rw [hvalue, hlayers, hgpu, halign]
  refine planes_inside_iff_roomy f (Nat.two_pow_pos gpu) (Nat.two_pow_pos k) (pow_dvd_pow 2 hk)
    hpositive hw hh (fun _ => haw hno.width) (fun _ => hah hno.height) ?_ hno.planes
  rintro rfl
  exact even_of_and_one hheight.le fun hodd => hrefused (.inr hodd)

/-- An even number of rows has room for both chroma addresses. -/
theorem getYUVPlaneInfo_inside_even :
    ∃ planes,
      Platform.plain.getYUVPlaneInfo
          { Platform.plain.allocatedHandle
              { width := 640, height := 480, format := .yCbCr420Sp } 5 6 0 1 with base := 0x7000 } {} =
        some [planes] ∧
      planes.Inside 0x7000 480 240 462848 := by
  obtain ⟨planes, hplanes, hinside⟩ := getYUVPlaneInfo_inside_iff .plain yCbCr420Sp
    { width := 640, height := 480, format := .yCbCr420Sp } rfl (by decide) (by decide)
    ⟨0, rfl⟩ 5 6 0 1 0x7000
  refine ⟨planes, hplanes, (hinside ?_ (by decide)).mpr (.inr (.inl (by decide)))⟩
  obtain rfl : _ = planes := List.head_eq_of_cons_eq (Option.some.inj hplanes)
  exact ⟨by decide, by decide, by decide, by decide, by decide, by decide, by decide, by decide⟩

/-- One row of 16384 pixels: the chroma row ends 4 KiB behind the buffer. -/
theorem getYUVPlaneInfo_single_row :
    ∃ planes,
      Platform.plain.getYUVPlaneInfo
          (Platform.plain.allocatedHandle
            { width := 16384, height := 1, format := .yCbCr420Sp } 5 6 0 1) {} = some [planes] ∧
      NoOverflow .plain { width := 16384, height := 1, format := .yCbCr420Sp } planes ∧
      (Platform.plain.getBufferSizeAndDimensions (Platform.allocationInfo
        { width := 16384, height := 1, format := .yCbCr420Sp })).1.value = 28672 ∧
      planeEnd 0 planes.cb planes.cstride 1 = 32768 ∧
      ¬ planes.Inside 0 1 1 28672 := by
  refine ⟨_, rfl, ⟨by decide, by decide, by decide, ?_⟩, by decide, by decide, ?_⟩
  · exact ⟨by decide, by decide, by decide, by decide, by decide⟩
  · rintro ⟨-, hcb, -⟩
    exact absurd hcb (by decide)

end Yoshino.Gralloc
