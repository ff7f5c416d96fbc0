import Mathlib.Algebra.Order.Ring.Int

/-!
# Signed 32-bit arithmetic without overflow

An operation on `Int32` has its exact result as long as that result fits.
-/

namespace Yoshino.Library

/-- A number is in the range of a signed 32-bit integer. -/
def Fits (x : Int) : Prop :=
  -2 ^ 31 ≤ x ∧ x < 2 ^ 31

instance (x : Int) : Decidable (Fits x) :=
  inferInstanceAs (Decidable (_ ∧ _))

/-- A number that fits does not wrap. -/
theorem bmod_of_fits {x : Int} (h : Fits x) : x.bmod (2 ^ 32) = x := by
  obtain ⟨hlower, hupper⟩ := h
  apply Int.bmod_eq_of_le
  · omega
  · omega

/-- A product that fits does not wrap around. -/
theorem toInt_mul_of_fits {a b : Int32} (h : Fits (a.toInt * b.toInt)) :
    (a * b).toInt = a.toInt * b.toInt := by
  rw [Int32.toInt_mul, bmod_of_fits h]

/-- A sum that fits does not wrap around. -/
theorem toInt_add_of_fits {a b : Int32} (h : Fits (a.toInt + b.toInt)) :
    (a + b).toInt = a.toInt + b.toInt := by
  rw [Int32.toInt_add, bmod_of_fits h]

/-- A difference that fits does not wrap around. -/
theorem toInt_sub_of_fits {a b : Int32} (h : Fits (a.toInt - b.toInt)) :
    (a - b).toInt = a.toInt - b.toInt := by
  rw [Int32.toInt_sub, bmod_of_fits h]

/-- Division by a positive number rounds down above zero. -/
theorem toInt_div_of_nonneg {a b : Int32} (ha : 0 ≤ a.toInt) (hb : 0 < b.toInt) :
    (a / b).toInt = a.toInt / b.toInt := by
  have hne : b ≠ -1 := fun h => by
    rw [h] at hb
    exact absurd hb (by decide)
  rw [Int32.toInt_div_of_ne_right a b hne, Int.tdiv_eq_ediv_of_nonneg ha]

/-- The low byte of a number. -/
theorem toInt_and_byte (a : Int32) : 0 ≤ (a &&& 0x00ff).toInt ∧ (a &&& 0x00ff).toInt ≤ 255 := by
  have hle : (a &&& 0x00ff).toBitVec.toNat ≤ 255 := by
    rw [Int32.toBitVec_and, BitVec.toNat_and]
    exact Nat.and_le_right
  rw [← Int32.toInt_toBitVec, BitVec.toInt_eq_toNat_of_lt (by omega)]
  omega

/-- An arithmetic shift divides. -/
theorem toInt_shiftRight_byte (a : Int32) : (a >>> 8).toInt = a.toInt / 256 := by
  rw [← Int32.toInt_toBitVec, Int32.toBitVec_shiftRight,
    show (8 : Int32).toBitVec.smod 32 = 8#32 from rfl, BitVec.sshiftRight_eq', BitVec.toInt_sshiftRight,
    Int32.toInt_toBitVec, Int.shiftRight_eq_div_pow]
  rfl

end Yoshino.Library
