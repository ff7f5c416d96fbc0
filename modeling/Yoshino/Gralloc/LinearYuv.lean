import Yoshino.Gralloc.Planes

/-!
# The linear YUV formats in exact numbers

What the tracked computations of `GetSize` and `GetAlignedWidthAndHeight` denote for the linear YUV
formats: dimensions and sizes as natural numbers, without wrap-around.
-/

namespace Yoshino.Gralloc

open Yoshino.Library

/-- The linear YUV formats with separate luma and chroma planes. -/
inductive LinearYuv where
  | yCbCr420Sp | yCrCb420Sp | yCbCr420P010 | yCbCr422Sp | yCrCb422Sp | nv21Zsl | yv12
  | yCrCb420SpAdreno

namespace LinearYuv

def format : LinearYuv → PixelFormat
  | yCbCr420Sp => .yCbCr420Sp
  | yCrCb420Sp => .yCrCb420Sp
  | yCbCr420P010 => .yCbCr420P010
  | yCbCr422Sp => .yCbCr422Sp
  | yCrCb422Sp => .yCrCb422Sp
  | nv21Zsl => .nv21Zsl
  | yv12 => .yv12
  | yCrCb420SpAdreno => .yCrCb420SpAdreno

/-- The alignment of the width, given that of the GPU. -/
def widthAlignment (gpu : Nat) : LinearYuv → Nat
  | yCbCr420Sp | yCrCb420Sp => gpu
  | yCbCr420P010 | yCbCr422Sp | yCrCb422Sp | yv12 => 16
  | yCrCb420SpAdreno => 32
  | nv21Zsl => 64

def alignedWidth (f : LinearYuv) (gpu width : Nat) : Nat :=
  roundUp width (f.widthAlignment gpu)

def alignedHeight (height : Nat) : LinearYuv → Nat
  | nv21Zsl => roundUp height 64
  | _ => height

/-- The chroma bytes of the Adreno format, from the halves of the requested dimensions. -/
def adrenoChroma (width height : Nat) : Nat :=
  2 * roundUp (width / 2) 32 * roundUp (height / 2) 32

/-- The bytes a size accounts for before its last rounding, for aligned dimensions. -/
def bytes (f : LinearYuv) (width height alignedw alignedh : Nat) : Nat :=
  match f with
  | yCbCr420Sp | yCrCb420Sp => alignedw * alignedh + alignedw * alignedh / 2 + 1
  | yCbCr420P010 => alignedw * alignedh * 2 + alignedw * alignedh + 1
  | yCbCr422Sp | yCrCb422Sp => alignedw * alignedh * 2
  | nv21Zsl => alignedw * alignedh + alignedw * alignedh / 2
  | yv12 => alignedw * alignedh + roundUp (alignedw / 2) 16 * (alignedh / 2) * 2
  | yCrCb420SpAdreno => roundUp (alignedw * alignedh) 4096 + adrenoChroma width height

/-- The requests the size computation refuses. -/
def Refused (f : LinearYuv) (width height : Int32) : Prop :=
  match f with
  | yv12 => width &&& 1 ≠ 0 ∨ height &&& 1 ≠ 0
  | yCbCr422Sp | yCrCb422Sp => width &&& 1 ≠ 0
  | _ => False

end LinearYuv

open LinearYuv

/-- The linear formats are never compressed. -/
theorem isUBwcEnabled_linear (p : Platform) (f : LinearYuv) (prodUsage consUsage : UInt64) :
    p.isUBwcEnabled f.format prodUsage consUsage = false := by
  cases f <;> simp [Platform.isUBwcEnabled, LinearYuv.format, isUBwcFormat, isUBwcSupported]

/-- The dimensions of a linear YUV format come from its own table. -/
theorem getAlignedWidthAndHeight_linear (p : Platform) (f : LinearYuv) {info : BufferInfo}
    (hformat : info.format = f.format) :
    p.getAlignedWidthAndHeight info =
      ((p.yuvWidthAndHeight info.width info.height f.format).1.toUInt32,
        (p.yuvWidthAndHeight info.width info.height f.format).2.toUInt32) := by
  unfold Platform.getAlignedWidthAndHeight
  rw [hformat, isUBwcEnabled_linear]
  cases f <;> rfl

/-- The size of a linear YUV format comes from its own table. -/
theorem getSize_linear (p : Platform) (f : LinearYuv) {info : BufferInfo}
    (hformat : info.format = f.format) (alignedw alignedh : Tracked UInt32) :
    p.getSize info alignedw alignedh =
      match p.yuvSize info.width info.height f.format alignedw alignedh with
      | none => 0
      | some size =>
        size.align (.of (p.getDataAlignment info.format info.prodUsage info.consUsage)) *
          (Tracked.of info.layerCount).toUInt32 := by
  unfold Platform.getSize
  rw [hformat, isUBwcEnabled_linear]
  cases f <;> rfl

/-- A number that is not negative denotes itself. -/
theorem denotes_of_nonneg {value : Int32} (h : 0 ≤ value.toInt) :
    (Tracked.of value).Denotes value.toInt.toNat :=
  fun _ => (Int.toNat_of_nonneg h).symm

section Denotations

variable (p : Platform) (f : LinearYuv) {width height : Int32} (hwidth : 0 ≤ width.toInt)
  (hheight : 0 ≤ height.toInt)

include hwidth in
/-- The width that the code computes, without an overflow, is the aligned width. -/
theorem yuvWidth_denotes {gpu : Nat} (hgpu : p.getGpuPixelAlignment.toNat = 2 ^ gpu) :
    (p.yuvWidthAndHeight width height f.format).1.Denotes
      (f.alignedWidth (2 ^ gpu) width.toInt.toNat) := by
  have hw := denotes_of_nonneg hwidth
  have hpower : (Tracked.of p.getGpuPixelAlignment).Denotes (2 ^ gpu) := fun _ => by
    rw [← hgpu]
    rfl
  cases f with
  | yCbCr420Sp | yCrCb420Sp => exact Tracked.Denotes.align rfl hw hpower.toInt32
  | yCbCr420P010 | yCbCr422Sp | yCrCb422Sp | yv12 =>
    exact Tracked.Denotes.align (y := 16) (k := 4) rfl hw fun _ => rfl
  | yCrCb420SpAdreno => exact Tracked.Denotes.align (y := 32) (k := 5) rfl hw fun _ => rfl
  | nv21Zsl => exact Tracked.Denotes.align (y := 64) (k := 6) rfl hw fun _ => rfl

include hheight in
/-- The height that the code computes, without an overflow, is the aligned height. -/
theorem yuvHeight_denotes :
    (p.yuvWidthAndHeight width height f.format).2.Denotes (f.alignedHeight height.toInt.toNat) := by
  have hh := denotes_of_nonneg hheight
  cases f with
  | nv21Zsl => exact Tracked.Denotes.align (y := 64) (k := 6) rfl hh fun _ => rfl
  | _ => exact hh

/-- A size that is rounded to 4 KiB first has the same multiple of every data alignment. -/
theorem roundUp_page (n : Nat) {k : Nat} (hk : 12 ≤ k) :
    roundUp (roundUp n 4096) (2 ^ k) = roundUp n (2 ^ k) :=
  roundUp_roundUp n (Nat.two_pow_pos k) (pow_dvd_pow 2 hk)

/-- A size is a number of bytes up to rounding to the data alignment. -/
def SizeDenotes (size : Tracked UInt32) (n : Nat) : Prop :=
  ∃ m, size.Denotes m ∧ ∀ k, 12 ≤ k → roundUp m (2 ^ k) = roundUp n (2 ^ k)

/-- Rounding up to a page keeps a size that denotes a number. -/
theorem sizeDenotes_align {x : Tracked UInt32} {n : Nat} (hx : x.Denotes n) :
    SizeDenotes (x.align 4096) n :=
  ⟨roundUp n 4096, Tracked.Denotes.align (y := 4096) (k := 12) rfl hx fun _ => rfl,
    fun _ => roundUp_page n⟩

/-- The constant two denotes the number two. -/
theorem denotes_two : (2 : Tracked UInt32).Denotes 2 := fun _ => rfl

include hwidth hheight in
/-- The chroma bytes of the Adreno format are computed in signed numbers. -/
theorem adrenoChroma_denotes :
    ((2 * (Tracked.of width / 2).align 32 *
      (Tracked.of height / 2).align 32).align 4096).toUInt32.Denotes
        (roundUp (adrenoChroma width.toInt.toNat height.toInt.toNat) 4096) := by
  have htwo : (2 : Tracked Int32).Denotes 2 := fun _ => rfl
  have hhalf {value : Int32} (h : 0 ≤ value.toInt) :
      ((Tracked.of value / 2).align 32).Denotes (roundUp (value.toInt.toNat / 2) 32) :=
    Tracked.Denotes.align (y := 32) (k := 5) rfl ((denotes_of_nonneg h).div htwo (by decide))
      fun _ => rfl
  have hproduct := (htwo.mul (hhalf hwidth)).mul (hhalf hheight)
  exact (Tracked.Denotes.align (y := 4096) (k := 12) rfl hproduct fun _ => rfl).toUInt32

/-- Two page-rounded parts are as many pages as the first part and the bytes of the second. -/
theorem sizeDenotes_add {x y : Tracked UInt32} {m n : Nat} (hx : x.Denotes (roundUp m 4096))
    (hy : y.Denotes (roundUp n 4096)) : SizeDenotes (x + y) (roundUp m 4096 + n) := by
  refine ⟨_, hx.add hy, fun k hk => ?_⟩
  have hsum : roundUp m 4096 + roundUp n 4096 = roundUp (roundUp m 4096 + n) 4096 := by
    have hle := le_roundUp n (a := 4096) (by decide)
    have hlt := roundUp_lt n (a := 4096) (by decide)
    exact (roundUp_eq (Nat.dvd_add (dvd_roundUp m 4096) (dvd_roundUp n 4096)) (by omega)
      (by omega)).symm
  rw [hsum, roundUp_page _ hk]

include hwidth hheight in
/-- Every request that is not refused has the bytes of its format. -/
theorem yuvSize_denotes {alignedw alignedh : Tracked UInt32} {aw ah : Nat}
    (haw : alignedw.Denotes aw) (hah : alignedh.Denotes ah) :
    (f.Refused width height ∧ p.yuvSize width height f.format alignedw alignedh = none) ∨
    (¬ f.Refused width height ∧
      ∃ size, p.yuvSize width height f.format alignedw alignedh = some size ∧
        SizeDenotes size (f.bytes width.toInt.toNat height.toInt.toNat aw ah)) := by
  have harea := haw.mul hah
  have hone : (1 : Tracked UInt32).Denotes 1 := fun _ => rfl
  have hhalf := harea.div denotes_two (by decide)
  cases f with
  | yCbCr420Sp | yCrCb420Sp =>
    exact .inr ⟨not_false, _, rfl, sizeDenotes_align ((harea.add hhalf).add hone)⟩
  | yCbCr420P010 =>
    exact .inr ⟨not_false, _, rfl,
      sizeDenotes_align (((harea.mul denotes_two).add harea).add hone)⟩
  | yCbCr422Sp | yCrCb422Sp =>
    by_cases hodd : width &&& 1 ≠ 0
    · exact .inl ⟨hodd, if_pos hodd⟩
    · exact .inr ⟨hodd, _, if_neg hodd, sizeDenotes_align (harea.mul denotes_two)⟩
  | nv21Zsl => exact .inr ⟨not_false, _, rfl, sizeDenotes_align (harea.add hhalf)⟩
  | yv12 =>
    by_cases hodd : width &&& 1 ≠ 0 ∨ height &&& 1 ≠ 0
    · exact .inl ⟨hodd, if_pos hodd⟩
    · have hstride : ((alignedw / 2).align 16).Denotes (roundUp (aw / 2) 16) :=
        Tracked.Denotes.align (y := 16) (k := 4) rfl (haw.div denotes_two (by decide)) fun _ => rfl
      have hchroma := (hstride.mul (hah.div denotes_two (by decide))).mul denotes_two
      exact .inr ⟨hodd, _, if_neg hodd, sizeDenotes_align (harea.add hchroma)⟩
  | yCrCb420SpAdreno =>
    have hluma : ((alignedw * alignedh).align 4096).Denotes (roundUp (aw * ah) 4096) :=
      Tracked.Denotes.align (y := 4096) (k := 12) rfl harea fun _ => rfl
    exact .inr ⟨not_false, _, rfl, sizeDenotes_add hluma (adrenoChroma_denotes hwidth hheight)⟩

end Denotations

/-- The bytes of a request for a linear YUV format, with its dimensions aligned. -/
def requestBytes (f : LinearYuv) (gpu width height : Nat) : Nat :=
  f.bytes width height (f.alignedWidth gpu width) (f.alignedHeight height)

/-- A size that was computed exactly and is not zero is the bytes of the format, rounded up to the
data alignment, once for each layer. -/
theorem getSize_denotes (p : Platform) (f : LinearYuv) {info : BufferInfo} {gpu k : Nat}
    (hformat : info.format = f.format) (hwidth : 0 ≤ info.width.toInt)
    (hheight : 0 ≤ info.height.toInt) (hgpu : p.getGpuPixelAlignment.toNat = 2 ^ gpu) (hk : 12 ≤ k)
    (halign : (p.getDataAlignment info.format info.prodUsage info.consUsage).toNat = 2 ^ k)
    (hexact : (p.getBufferSizeAndDimensions info).1.exact = true)
    (hsize : (p.getBufferSizeAndDimensions info).1.value ≠ 0) :
    ¬ f.Refused info.width info.height ∧ 0 ≤ info.layerCount.toInt ∧
      (p.getBufferSizeAndDimensions info).1.value.toNat =
        roundUp (requestBytes f (2 ^ gpu) info.width.toInt.toNat info.height.toInt.toNat) (2 ^ k) *
          info.layerCount.toInt.toNat := by
  have hdimensions := getAlignedWidthAndHeight_linear p f hformat
  have haw : (p.yuvWidthAndHeight info.width info.height f.format).1.toUInt32.Denotes _ :=
    Tracked.Denotes.toUInt32 (yuvWidth_denotes p f hwidth hgpu)
  have hah : (p.yuvWidthAndHeight info.width info.height f.format).2.toUInt32.Denotes _ :=
    Tracked.Denotes.toUInt32 (yuvHeight_denotes p f hheight)
  have heq : (p.getBufferSizeAndDimensions info).1 = _ := getSize_linear p f hformat _ _
  rw [hdimensions] at heq
  obtain ⟨-, hnone⟩ | ⟨hrefused, size, hsome, m, hm, hround⟩ :=
    yuvSize_denotes p f hwidth hheight haw hah
  · rw [hnone] at heq
    rw [heq] at hsize
    exact absurd rfl hsize
  · rw [hsome] at heq
    rw [heq] at hexact ⊢
    have hmask : (Tracked.of (p.getDataAlignment info.format info.prodUsage info.consUsage)).Denotes
        (2 ^ k) := fun _ => by
      rw [← halign]
      rfl
    obtain ⟨-, hlayers⟩ := Tracked.exact_toUInt32 (Tracked.exact_mul.mp hexact).1.2
    have hlayerCount := (denotes_of_nonneg hlayers).toUInt32
    have hvalue := ((Tracked.Denotes.align rfl hm hmask).mul hlayerCount) hexact
    rw [hround k hk] at hvalue
    exact ⟨hrefused, hlayers, Int.ofNat_inj.mp hvalue⟩

end Yoshino.Gralloc
