import Mathlib.Data.Nat.Bitwise

/-!
# Bit fields as arithmetic

Marking, masking and shifting of unsigned words, as sums, remainders and quotients.
-/

namespace Yoshino.Library

/-- Setting bits above a number adds them. -/
theorem or_mark {x k : Nat} (a : Nat) (hx : x < 2 ^ k) : x ||| 2 ^ k * a = 2 ^ k * a + x := by
  rw [Nat.lor_comm, ← Nat.two_pow_add_eq_or_of_lt hx]

/-- The low bits of a word. -/
theorem toNat_and_mask (x : UInt32) {mask : UInt32} (k : Nat) (hmask : mask.toNat = 2 ^ k - 1) :
    (x &&& mask).toNat = x.toNat % 2 ^ k := by
  rw [UInt32.toNat_and, hmask, Nat.and_two_pow_sub_one_eq_mod]

/-- A shift to the right divides. -/
theorem toNat_shiftRight_eq_div (x : UInt32) {amount : UInt32} (k : Nat) (hamount : amount.toNat = k)
    (hk : k < 32) : (x >>> amount).toNat = x.toNat / 2 ^ k := by
  rw [UInt32.toNat_shiftRight, hamount, Nat.mod_eq_of_lt hk, Nat.shiftRight_eq_div_pow]

/-- A shift to the left multiplies, as long as nothing is lost. -/
theorem toNat_shiftLeft_eq_mul (x : UInt32) {amount : UInt32} (k : Nat) (hamount : amount.toNat = k)
    (hk : k < 32) (hx : x.toNat * 2 ^ k < 2 ^ 32) : (x <<< amount).toNat = x.toNat * 2 ^ k := by
  rw [UInt32.toNat_shiftLeft, hamount, Nat.mod_eq_of_lt hk, Nat.shiftLeft_eq, Nat.mod_eq_of_lt hx]

/-- The low byte of a word with a mark above a field. -/
theorem toUInt8_or_mark {x mark : UInt32} (k a : Nat) (hmark : mark.toNat = 2 ^ k * a)
    (hx : x.toNat < 2 ^ k) : (x ||| mark).toUInt8 = UInt8.ofNat (2 ^ k * a + x.toNat) := by
  apply UInt8.toNat_inj.mp
  rw [UInt32.toNat_toUInt8, UInt32.toNat_or, hmark, or_mark a hx, UInt8.toNat_ofNat']

end Yoshino.Library
