import Mathlib.Data.Nat.ModEq
import Mathlib.Data.Nat.Bitwise

/-!
# Rounding up to a multiple

The least multiple of an alignment that is not below a number, how such roundings nest, and the
mask that computes one for a power of two.
-/

namespace Yoshino.Library

/-- The least multiple of an alignment that is not below a number. -/
def roundUp (n a : Nat) : Nat :=
  (n + a - 1) / a * a

/-- A rounded number is a multiple. -/
theorem dvd_roundUp (n a : Nat) : a ∣ roundUp n a :=
  Dvd.intro_left _ rfl

/-- Rounding up does not lower a number. -/
theorem le_roundUp (n : Nat) {a : Nat} (ha : 0 < a) : n ≤ roundUp n a := by
  have hdiv := Nat.div_add_mod (n + a - 1) a
  have hmod := Nat.mod_lt (n + a - 1) ha
  have hcomm := Nat.mul_comm a ((n + a - 1) / a)
  rw [roundUp]
  omega

/-- Rounding up adds less than the alignment. -/
theorem roundUp_lt (n : Nat) {a : Nat} (ha : 0 < a) : roundUp n a < n + a := by
  have hle := Nat.div_mul_le_self (n + a - 1) a
  rw [roundUp]
  omega

/-- The rounded number is the only multiple in its window. -/
theorem roundUp_eq {n a m : Nat} (hdvd : a ∣ m) (hle : n ≤ m) (hlt : m < n + a) :
    roundUp n a = m := by
  obtain ⟨k, rfl⟩ := hdvd
  rw [roundUp, Nat.mul_comm a k]
  congr 1
  rw [Nat.mul_comm] at hle hlt
  apply Nat.div_eq_of_lt_le
  · omega
  · rw [Nat.succ_mul]
    omega

/-- A multiple is not changed. -/
theorem roundUp_of_dvd {n a : Nat} (ha : 0 < a) (hdvd : a ∣ n) : roundUp n a = n :=
  roundUp_eq hdvd le_rfl (by omega)

/-- A multiple of the alignment that is not below a number is not below the rounded one. -/
theorem roundUp_le {n a m : Nat} (hdvd : a ∣ m) (hle : n ≤ m) : roundUp n a ≤ m := by
  obtain rfl | ha := Nat.eq_zero_or_pos a
  · simp [roundUp]
  obtain ⟨k, hk⟩ := dvd_roundUp n a
  obtain ⟨l, rfl⟩ := hdvd
  have hlt := roundUp_lt n ha
  rw [hk] at hlt ⊢
  apply Nat.mul_le_mul_left
  by_contra hkl
  have hstep := Nat.mul_le_mul_left a (show l + 1 ≤ k by omega)
  rw [Nat.mul_succ] at hstep
  omega

/-- A number that is no multiple grows. -/
theorem lt_roundUp_iff {n a : Nat} (ha : 0 < a) : n < roundUp n a ↔ ¬ a ∣ n := by
  constructor
  · intro hlt hdvd
    rw [roundUp_of_dvd ha hdvd] at hlt
    exact lt_irrefl n hlt
  · intro hdvd
    refine lt_of_le_of_ne (le_roundUp n ha) fun heq => hdvd ?_
    rw [heq]
    exact dvd_roundUp n a

/-- Rounding to a coarser alignment forgets a finer one. -/
theorem roundUp_roundUp (n : Nat) {a b : Nat} (hb : 0 < b) (hdvd : a ∣ b) :
    roundUp (roundUp n a) b = roundUp n b := by
  have ha := Nat.pos_of_dvd_of_pos hdvd hb
  have hfine := le_roundUp n ha
  have hle := roundUp_le (hdvd.trans (dvd_roundUp n b)) (le_roundUp n hb)
  have hlt := roundUp_lt n hb
  exact roundUp_eq (dvd_roundUp n b) hle (by omega)

/-- Scaling both sides scales the result. -/
theorem roundUp_mul (n a k : Nat) (hk : 0 < k) : roundUp (k * n) (k * a) = k * roundUp n a := by
  obtain rfl | ha := Nat.eq_zero_or_pos a
  · simp [roundUp]
  refine roundUp_eq (Nat.mul_dvd_mul_left k (dvd_roundUp n a)) ?_ ?_
  · exact Nat.mul_le_mul_left k (le_roundUp n ha)
  · rw [← Nat.mul_add]
    exact Nat.mul_lt_mul_of_pos_left (roundUp_lt n ha) hk

/-- Counting blocks and rounding the count is rounding to whole groups of blocks. -/
theorem roundUp_blocks (n k a : Nat) (hk : 0 < k) (ha : 0 < a) :
    k * roundUp ((n + k - 1) / k) a = roundUp n (k * a) := by
  rw [← roundUp_mul _ _ _ hk, Nat.mul_comm k ((n + k - 1) / k)]
  exact roundUp_roundUp n (Nat.mul_pos hk ha) (Dvd.intro a rfl)

/-- A rounding inside the groups of blocks leaves the rounded count of blocks as it is. -/
theorem blocks_roundUp (n k a : Nat) {b : Nat} (hk : 0 < k) (ha : 0 < a) (hdvd : b ∣ k * a) :
    roundUp ((roundUp n b + k - 1) / k) a = roundUp ((n + k - 1) / k) a := by
  apply Nat.eq_of_mul_eq_mul_left hk
  calc k * roundUp ((roundUp n b + k - 1) / k) a
      = roundUp (roundUp n b) (k * a) := roundUp_blocks _ k a hk ha
    _ = roundUp n (k * a) := roundUp_roundUp n (Nat.mul_pos hk ha) hdvd
    _ = k * roundUp ((n + k - 1) / k) a := (roundUp_blocks n k a hk ha).symm

/-- Clearing the low bits of a number rounds it down. -/
theorem and_high_mask {x k w : Nat} (hk : k ≤ w) (hx : x < 2 ^ w) :
    x &&& (2 ^ w - 2 ^ k) = x / 2 ^ k * 2 ^ k := by
  have hpos : 0 < 2 ^ k := Nat.two_pow_pos k
  have hle : 2 ^ k ≤ 2 ^ w := Nat.pow_le_pow_right (by decide) hk
  apply Nat.eq_of_testBit_eq
  intro i
  have hmask : (2 ^ w - 2 ^ k).testBit i = (decide (i < w) && !decide (i < k)) := by
    have h := Nat.testBit_two_pow_sub_succ (x := 2 ^ k - 1) (n := w) (by omega) i
    rwa [Nat.sub_add_cancel hpos, Nat.testBit_two_pow_sub_one] at h
  rw [Nat.testBit_and, hmask, Nat.testBit_mul_two_pow]
  by_cases hik : i < k
  · simp [hik]
  · rw [Nat.testBit_div_two_pow, Nat.sub_add_cancel (by omega)]
    by_cases hiw : i < w
    · simp [hik, hiw, Nat.le_of_not_lt hik]
    · have hbound : x < 2 ^ i := hx.trans_le (Nat.pow_le_pow_right (by decide) (Nat.le_of_not_lt hiw))
      simp [Nat.testBit_lt_two_pow hbound]

end Yoshino.Library
