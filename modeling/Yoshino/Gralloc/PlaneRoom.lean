import Yoshino.Gralloc.LinearYuv

/-!
# When the chroma planes have room

The sizes of most linear YUV formats count chroma rows as half the luma rows rounded down, and only
some leave room for the second chroma address, which lies one byte behind the first. Whether the
planes fit is then left to the rounding of the size and to further layers.
-/

namespace Yoshino.Gralloc

open Yoshino.Library LinearYuv

namespace LinearYuv

/-- The bytes of a sample. -/
def sampleBytes : LinearYuv → Nat
  | yCbCr420P010 => 2
  | _ => 1

def chromaRows (height : Nat) : LinearYuv → Nat
  | yCbCr422Sp | yCrCb422Sp => height
  | _ => (height + 1) / 2

/-- The bytes a size gains by rounding to the data alignment. -/
def padding (align n : Nat) : Nat :=
  roundUp n align - n

/-- The requests for which rounding and layers make up for what the size leaves out. -/
def Roomy (f : LinearYuv) (gpu align layers width height : Nat) : Prop :=
  let aw := f.alignedWidth gpu width
  match f with
  | yCbCr420Sp | yCrCb420Sp =>
    2 ≤ layers ∨ 2 ∣ height ∨ (aw + 1) / 2 ≤ padding align (aw * height + aw * height / 2 + 1)
  | yCbCr420P010 =>
    2 ≤ layers ∨ 2 ∣ height ∨ aw ≤ padding align (aw * height * 2 + aw * height + 1)
  | yCbCr422Sp | yCrCb422Sp => 2 ≤ layers ∨ ¬ align ∣ aw * height * 2
  | nv21Zsl =>
    2 ≤ layers ∨ height + 1 < roundUp height 64 ∨
      ¬ align ∣ aw * roundUp height 64 + aw * roundUp height 64 / 2
  | yv12 => True
  | yCrCb420SpAdreno =>
    3 ≤ layers ∨ (layers = 2 ∧ ¬ (height = 1 ∧ align ∣ aw)) ∨
      aw * ((height + 1) / 2) < adrenoChroma width height + padding 4096 (aw * height) +
        padding align (roundUp (aw * height) 4096 + adrenoChroma width height)

end LinearYuv

section Room

variable {G L : Nat} (hG : 0 < G) (hL : 0 < L)

include hG hL in
/-- What is below twice a size fits if there are two layers, or if it fits in one. -/
theorem lt_layers_iff {n r : Nat} (hr : r < 2 * n) :
    r < roundUp n G * L ↔ 2 ≤ L ∨ r < roundUp n G := by
  have hle := le_roundUp n hG
  obtain rfl | hmany : L = 1 ∨ 2 ≤ L := by omega
  · rw [Nat.mul_one]
    omega
  · have hgrow := Nat.mul_le_mul_left (roundUp n G) hmany
    constructor
    · exact fun _ => .inl hmany
    · intro _
      omega

/-- Half the rows, rounded up, are not more than all of them. -/
theorem mul_half_rows_le (stride : Nat) {rows : Nat} (hrows : 0 < rows) :
    stride * ((rows + 1) / 2) ≤ stride * rows :=
  Nat.mul_le_mul_left stride (by omega)

/-- Half of an even number of rows. -/
theorem mul_half_even (stride : Nat) {rows : Nat} (heven : 2 ∣ rows) :
    stride * ((rows + 1) / 2) * 2 = stride * rows := by
  obtain ⟨m, rfl⟩ := heven
  rw [show (2 * m + 1) / 2 = m by omega, Nat.mul_left_comm, Nat.mul_comm]

/-- Half of an odd number of rows counts the middle row in full. -/
theorem mul_half_odd (stride : Nat) {rows : Nat} (hodd : ¬ 2 ∣ rows) :
    stride * ((rows + 1) / 2) * 2 = stride * rows + stride := by
  obtain ⟨m, rfl⟩ : ∃ m, rows = 2 * m + 1 := ⟨rows / 2, by omega⟩
  rw [show (2 * m + 1 + 1) / 2 = m + 1 by omega, Nat.mul_assoc, ← Nat.mul_succ]
  congr 1
  omega

include hG hL in
/-- The end of the chroma of the 4:2:0 formats. -/
theorem room420_iff (aw : Nat) {h : Nat} (hh : 0 < h) :
    aw * h + aw * ((h + 1) / 2) < roundUp (aw * h + aw * h / 2 + 1) G * L ↔
      2 ≤ L ∨ 2 ∣ h ∨
        (aw + 1) / 2 ≤ roundUp (aw * h + aw * h / 2 + 1) G - (aw * h + aw * h / 2 + 1) := by
  have hrows := mul_half_rows_le aw hh
  have hle := le_roundUp (aw * h + aw * h / 2 + 1) hG
  rw [lt_layers_iff hG hL (by omega)]
  by_cases hparity : 2 ∣ h
  · have hhalf := mul_half_even aw hparity
    simp only [hparity, true_or, or_true, iff_true]
    omega
  · have hhalf := mul_half_odd aw hparity
    simp only [hparity, false_or]
    omega

include hG hL in
/-- The end of the chroma of P010, with two bytes a sample. -/
theorem roomP010_iff (aw : Nat) {h : Nat} (hh : 0 < h) :
    aw * 2 * h + aw * 2 * ((h + 1) / 2) < roundUp (aw * h * 2 + aw * h + 1) G * L ↔
      2 ≤ L ∨ 2 ∣ h ∨
        aw ≤ roundUp (aw * h * 2 + aw * h + 1) G - (aw * h * 2 + aw * h + 1) := by
  have hrows := mul_half_rows_le aw hh
  have hle := le_roundUp (aw * h * 2 + aw * h + 1) hG
  rw [Nat.mul_right_comm aw 2 h, Nat.mul_right_comm aw 2, lt_layers_iff hG hL (by omega)]
  by_cases hparity : 2 ∣ h
  · have hhalf := mul_half_even aw hparity
    simp only [hparity, true_or, or_true, iff_true]
    omega
  · have hhalf := mul_half_odd aw hparity
    simp only [hparity, false_or]
    omega

include hG hL in
/-- The end of the chroma of the 4:2:2 formats, for which the size has no spare byte. -/
theorem room422_iff {aw h : Nat} (haw : 0 < aw) (hh : 0 < h) :
    aw * h + aw * h < roundUp (aw * h * 2) G * L ↔ 2 ≤ L ∨ ¬ G ∣ aw * h * 2 := by
  have harea : 0 < aw * h := Nat.mul_pos haw hh
  rw [lt_layers_iff hG hL (by omega), ← Nat.mul_two, lt_roundUp_iff hG]

include hG hL in
/-- The end of the chroma of NV21 ZSL, whose rows are aligned to 64. -/
theorem roomZsl_iff {aw h : Nat} (haw : 0 < aw) (hh : 0 < h) :
    aw * roundUp h 64 + aw * ((h + 1) / 2) <
        roundUp (aw * roundUp h 64 + aw * roundUp h 64 / 2) G * L ↔
      2 ≤ L ∨ h + 1 < roundUp h 64 ∨ ¬ G ∣ aw * roundUp h 64 + aw * roundUp h 64 / 2 := by
  have hrows := le_roundUp h (a := 64) (by decide)
  obtain ⟨m, hm⟩ : 2 ∣ roundUp h 64 := (by decide : 2 ∣ 64).trans (dvd_roundUp h 64)
  rw [hm] at hrows ⊢
  have harea : 0 < aw * m := Nat.mul_pos haw (by omega)
  have hhalf : aw * (2 * m) = 2 * (aw * m) := Nat.mul_left_comm aw 2 m
  have hhalves : aw * (2 * m) / 2 = aw * m := by omega
  have hle := Nat.mul_le_mul_left aw (show (h + 1) / 2 ≤ m by omega)
  rw [hhalves, lt_layers_iff hG hL (by omega)]
  have hround := le_roundUp (aw * (2 * m) + aw * m) hG
  by_cases hshort : h + 1 < 2 * m
  · have hstep := Nat.mul_le_mul_left aw (show (h + 1) / 2 + 1 ≤ m by omega)
    rw [Nat.mul_succ] at hstep
    simp only [hshort, true_or, or_true, iff_true]
    omega
  · rw [show (h + 1) / 2 = m by omega, lt_roundUp_iff hG]
    simp only [hshort, false_or]

include hL in
/-- The end of the chroma of the Adreno format, whose two planes are rounded apart. -/
theorem roomAdreno_iff {w aw h : Nat} (hpage : 4096 ∣ G) (hG : 0 < G) (haw : 0 < aw) (hh : 0 < h) :
    aw * h + aw * ((h + 1) / 2) <
        roundUp (roundUp (aw * h) 4096 + adrenoChroma w h) G * L ↔
      3 ≤ L ∨ (L = 2 ∧ ¬ (h = 1 ∧ G ∣ aw)) ∨
        aw * ((h + 1) / 2) < adrenoChroma w h + (roundUp (aw * h) 4096 - aw * h) +
          (roundUp (roundUp (aw * h) 4096 + adrenoChroma w h) G -
            (roundUp (aw * h) 4096 + adrenoChroma w h)) := by
  have harea : 0 < aw * h := Nat.mul_pos haw hh
  have hrows := mul_half_rows_le aw hh
  have hluma := le_roundUp (aw * h) (a := 4096) (by decide)
  have hround := le_roundUp (roundUp (aw * h) 4096 + adrenoChroma w h) hG
  obtain rfl | rfl | hmany : L = 1 ∨ L = 2 ∨ 3 ≤ L := by omega
  · omega
  · obtain rfl | htall : h = 1 ∨ 2 ≤ h := by omega
    · have hchroma : adrenoChroma w 1 = 0 := by simp [adrenoChroma, roundUp]
      have hnest : roundUp (roundUp aw 4096) G = roundUp aw G := roundUp_roundUp aw hG hpage
      rw [hchroma, Nat.mul_one, Nat.add_zero, hnest] at hround
      rw [Nat.mul_one] at hluma
      rw [hchroma, Nat.mul_one, Nat.add_zero, hnest]
      by_cases hdvd : G ∣ aw
      · have hsame := roundUp_of_dvd hG hdvd
        simp only [hdvd, hsame, and_self, not_true_eq_false, and_false, false_or]
        omega
      · have hgrow := (lt_roundUp_iff hG).mpr hdvd
        simp only [hdvd, and_false, not_false_eq_true, and_self, true_or, or_true, iff_true]
        omega
    · have hstep := Nat.mul_le_mul_left aw (show (h + 1) / 2 + 1 ≤ h by omega)
      rw [Nat.mul_succ] at hstep
      omega
  · have hgrow := Nat.mul_le_mul_left (roundUp (roundUp (aw * h) 4096 + adrenoChroma w h) G) hmany
    omega

include hG hL in
/-- The end of the second chroma plane against the size, for the semiplanar formats. -/
theorem room_iff (f : LinearYuv) (hplanar : f ≠ yv12) (hpage : 4096 ∣ G) {gpu w h : Nat}
    (haw : 0 < f.alignedWidth gpu w) (hh : 0 < h) :
    f.alignedWidth gpu w * f.sampleBytes * f.alignedHeight h +
        f.alignedWidth gpu w * f.sampleBytes * f.chromaRows h <
      roundUp (requestBytes f gpu w h) G * L ↔ f.Roomy gpu G L w h := by
  cases f with
  | yv12 => exact absurd rfl hplanar
  | yCbCr420Sp | yCrCb420Sp =>
    simp only [sampleBytes, Nat.mul_one]
    exact room420_iff hG hL _ hh
  | yCbCr420P010 => exact roomP010_iff hG hL _ hh
  | yCbCr422Sp | yCrCb422Sp =>
    simp only [sampleBytes, Nat.mul_one]
    exact room422_iff hG hL haw hh
  | nv21Zsl =>
    simp only [sampleBytes, Nat.mul_one]
    exact roomZsl_iff hG hL haw hh
  | yCrCb420SpAdreno =>
    simp only [sampleBytes, Nat.mul_one]
    exact roomAdreno_iff hL hpage hG haw hh

end Room

end Yoshino.Gralloc
