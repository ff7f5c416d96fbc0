import Mathlib.Algebra.Order.Ring.Int
import Yoshino.Library.Rounding
import Yoshino.Library.SignedArithmetic

/-!
# Fixed-width arithmetic that records overflow

A tracked number is the value a computation on machine integers has, with wrap-around, and a flag
that is kept as long as every step of the computation had its exact result. The value is what the
machine computes in any case; with the flag it is the number the expression denotes.
-/

namespace Yoshino.Library

/-- Machine integers of a fixed range, exact as long as a result stays in the range. -/
class FixedWidth (α : Type) [Add α] [Sub α] [Mul α] [Div α] [AndOp α] [Complement α] where
  toInt : α → Int
  lower : Int
  upper : Int
  lower_nonpos : lower ≤ 0
  toInt_add (a b : α) : lower ≤ toInt a + toInt b → toInt a + toInt b < upper →
    toInt (a + b) = toInt a + toInt b
  toInt_sub (a b : α) : lower ≤ toInt a - toInt b → toInt a - toInt b < upper →
    toInt (a - b) = toInt a - toInt b
  toInt_mul (a b : α) : lower ≤ toInt a * toInt b → toInt a * toInt b < upper →
    toInt (a * b) = toInt a * toInt b
  toInt_div (a b : α) : 0 ≤ toInt a → 0 < toInt b → toInt (a / b) = toInt a / toInt b
  toInt_and_not (a b : α) (k : Nat) : 0 ≤ toInt a → toInt b = 2 ^ k - 1 →
    toInt (a &&& ~~~b) = toInt a / 2 ^ k * 2 ^ k

/-- The number with its low bits cleared, for a word of 32 bits and a mask of low bits. -/
theorem and_not_low {x mask : BitVec 32} {k : Nat} (hmask : mask.toNat = 2 ^ k - 1) :
    (x &&& ~~~mask).toNat = x.toNat / 2 ^ k * 2 ^ k := by
  have hpos : 0 < 2 ^ k := Nat.two_pow_pos k
  have hlt := mask.isLt
  have hk : k ≤ 32 := (Nat.pow_le_pow_iff_right (by decide)).mp (show 2 ^ k ≤ 2 ^ 32 by omega)
  rw [BitVec.toNat_and, BitVec.toNat_not, hmask,
    show 2 ^ 32 - 1 - (2 ^ k - 1) = 2 ^ 32 - 2 ^ k by omega]
  exact and_high_mask hk x.isLt

/-- A mask of low bits as a natural number. -/
theorem low_mask_toNat {n k : Nat} (h : (n : Int) = 2 ^ k - 1) : n = 2 ^ k - 1 := by
  have hcast : ((2 ^ k : Nat) : Int) = 2 ^ k := Nat.cast_pow 2 k
  omega

instance : FixedWidth UInt32 where
  toInt a := a.toNat
  lower := 0
  upper := 2 ^ 32
  lower_nonpos := le_rfl
  toInt_add a b _ h := by
    rw [UInt32.toNat_add, Nat.mod_eq_of_lt (by omega)]
    omega
  toInt_sub a b h _ := by
    rw [UInt32.toNat_sub_of_le a b (UInt32.le_iff_toNat_le.mpr (by omega))]
    omega
  toInt_mul a b _ h := by
    rw [UInt32.toNat_mul, Nat.mod_eq_of_lt (by exact_mod_cast h), Nat.cast_mul]
  toInt_div a b _ _ := by
    rw [UInt32.toNat_div, Int.natCast_ediv]
  toInt_and_not a b k _ h := by
    have hclear := and_not_low (x := a.toBitVec) (low_mask_toNat h)
    rw [← UInt32.toNat_toBitVec, UInt32.toBitVec_and, UInt32.toBitVec_not, hclear]
    push_cast
    rfl

/-- A signed number that is not negative is its bits. -/
theorem toInt_eq_toNat_of_nonneg {a : Int32} (h : 0 ≤ a.toInt) :
    a.toInt = a.toBitVec.toNat ∧ a.toBitVec.toNat < 2 ^ 31 := by
  rw [← Int32.toInt_toBitVec] at h ⊢
  rw [BitVec.toInt_eq_toNat_cond] at h ⊢
  have := a.toBitVec.isLt
  split at h <;> split <;> omega

instance : FixedWidth Int32 where
  toInt a := a.toInt
  lower := -2 ^ 31
  upper := 2 ^ 31
  lower_nonpos := by decide
  toInt_add _ _ hlower hupper := toInt_add_of_fits ⟨hlower, hupper⟩
  toInt_sub _ _ hlower hupper := toInt_sub_of_fits ⟨hlower, hupper⟩
  toInt_mul _ _ hlower hupper := toInt_mul_of_fits ⟨hlower, hupper⟩
  toInt_div _ _ := toInt_div_of_nonneg
  toInt_and_not a b k ha h := by
    have hpos : 0 < 2 ^ k := Nat.two_pow_pos k
    have hcast : ((2 ^ k : Nat) : Int) = 2 ^ k := Nat.cast_pow 2 k
    obtain ⟨hb, -⟩ := toInt_eq_toNat_of_nonneg (a := b) (by omega)
    obtain ⟨haeq, halt⟩ := toInt_eq_toNat_of_nonneg ha
    have hclear := and_not_low (x := a.toBitVec) (low_mask_toNat (hb ▸ h))
    have hle := Nat.div_mul_le_self a.toBitVec.toNat (2 ^ k)
    rw [← Int32.toInt_toBitVec, Int32.toBitVec_and, Int32.toBitVec_not,
      BitVec.toInt_eq_toNat_of_lt (by omega), hclear, haeq]
    push_cast
    rfl

/-- A value and whether the computation that led to it was exact. -/
structure Tracked (α : Type) where
  value : α
  exact : Bool

namespace Tracked

/-- A value that is given and not computed. -/
def of {α : Type} (value : α) : Tracked α :=
  ⟨value, true⟩

section Operations

variable {α : Type} [Add α] [Sub α] [Mul α] [Div α] [AndOp α] [Complement α] [FixedWidth α]

open FixedWidth

/-- An exact result stays in the range of the type. -/
def inRange (α : Type) [Add α] [Sub α] [Mul α] [Div α] [AndOp α] [Complement α] [FixedWidth α]
    (n : Int) : Bool :=
  decide (lower α ≤ n) && decide (n < upper α)

instance (n : Nat) [OfNat α n] : OfNat (Tracked α) n :=
  ⟨⟨OfNat.ofNat n, true⟩⟩

instance : Add (Tracked α) where
  add x y := ⟨x.value + y.value,
    x.exact && y.exact && inRange α (toInt x.value + toInt y.value)⟩

instance : Sub (Tracked α) where
  sub x y := ⟨x.value - y.value,
    x.exact && y.exact && inRange α (toInt x.value - toInt y.value)⟩

instance : Mul (Tracked α) where
  mul x y := ⟨x.value * y.value,
    x.exact && y.exact && inRange α (toInt x.value * toInt y.value)⟩

instance : Div (Tracked α) where
  div x y := ⟨x.value / y.value,
    x.exact && y.exact && decide (toInt y.value ≠ 0) &&
      inRange α ((toInt x.value).tdiv (toInt y.value))⟩

/-- Rounding up with a mask. -/
def align [OfNat α 1] (x a : Tracked α) : Tracked α :=
  ⟨(x + a - 1).value &&& ~~~(a - 1).value, (x + a - 1).exact && (a - 1).exact⟩

/-- The value a computation has on the machine. -/
def HasValue (x : Tracked α) (n : Nat) : Prop :=
  toInt x.value = n

/-- An exact computation has a number as its result. -/
def Denotes (x : Tracked α) (n : Nat) : Prop :=
  x.exact = true → x.HasValue n

/-- The range of a type is half open. -/
theorem inRange_iff {n : Int} : inRange α n = true ↔ lower α ≤ n ∧ n < upper α := by
  rw [inRange, Bool.and_eq_true, decide_eq_true_iff, decide_eq_true_iff]

/-- A sum is exact if its terms are and it is in the range. -/
theorem exact_add {x y : Tracked α} : (x + y).exact = true ↔
    (x.exact = true ∧ y.exact = true) ∧ inRange α (toInt x.value + toInt y.value) = true := by
  rw [← Bool.and_eq_true, ← Bool.and_eq_true]
  rfl

/-- A difference is exact if its terms are and it is in the range. -/
theorem exact_sub {x y : Tracked α} : (x - y).exact = true ↔
    (x.exact = true ∧ y.exact = true) ∧ inRange α (toInt x.value - toInt y.value) = true := by
  rw [← Bool.and_eq_true, ← Bool.and_eq_true]
  rfl

/-- A product is exact if its factors are and it is in the range. -/
theorem exact_mul {x y : Tracked α} : (x * y).exact = true ↔
    (x.exact = true ∧ y.exact = true) ∧ inRange α (toInt x.value * toInt y.value) = true := by
  rw [← Bool.and_eq_true, ← Bool.and_eq_true]
  rfl

/-- An exact quotient has exact terms. -/
theorem exact_div {x y : Tracked α} (h : (x / y).exact = true) : x.exact = true ∧ y.exact = true := by
  have hdiv : (x.exact && y.exact && decide (toInt y.value ≠ 0) &&
      inRange α ((toInt x.value).tdiv (toInt y.value))) = true := h
  rw [Bool.and_eq_true, Bool.and_eq_true, Bool.and_eq_true] at hdiv
  exact hdiv.1.1

/-- An exact alignment was exact at both of its steps. -/
theorem exact_align [OfNat α 1] {x a : Tracked α} (h : (align x a).exact = true) :
    (x + a - 1).exact = true ∧ (a - 1).exact = true :=
  (Bool.and_eq_true _ _).mp h

/-- No natural number is below the range. -/
theorem lower_le_natCast (n : Nat) : lower α ≤ (n : Int) :=
  lower_nonpos.trans (Int.natCast_nonneg n)

namespace HasValue

variable {x y : Tracked α} {m n : Nat}

/-- Values below the upper end add up. -/
theorem add (hx : x.HasValue m) (hy : y.HasValue n) (hupper : ((m + n : Nat) : Int) < upper α) :
    (x + y).HasValue (m + n) := by
  have hsum : toInt x.value + toInt y.value = ((m + n : Nat) : Int) := by
    rw [hx, hy, Nat.cast_add]
  exact (toInt_add _ _ (hsum ▸ lower_le_natCast _) (hsum ▸ hupper)).trans hsum

/-- Values subtract, the smaller one from the larger one. -/
theorem sub (hx : x.HasValue m) (hy : y.HasValue n) (hle : n ≤ m)
    (hupper : ((m - n : Nat) : Int) < upper α) : (x - y).HasValue (m - n) := by
  have hdiff : toInt x.value - toInt y.value = ((m - n : Nat) : Int) := by
    rw [hx, hy, Nat.cast_sub hle]
  exact (toInt_sub _ _ (hdiff ▸ lower_le_natCast _) (hdiff ▸ hupper)).trans hdiff

/-- Values whose product is below the upper end multiply. -/
theorem mul (hx : x.HasValue m) (hy : y.HasValue n) (hupper : ((m * n : Nat) : Int) < upper α) :
    (x * y).HasValue (m * n) := by
  have hproduct : toInt x.value * toInt y.value = ((m * n : Nat) : Int) := by
    rw [hx, hy, Nat.cast_mul]
  exact (toInt_mul _ _ (hproduct ▸ lower_le_natCast _) (hproduct ▸ hupper)).trans hproduct

/-- Values divide, by a positive one. -/
theorem div (hx : x.HasValue m) (hy : y.HasValue n) (hn : 0 < n) : (x / y).HasValue (m / n) := by
  have hquotient : toInt x.value / toInt y.value = ((m / n : Nat) : Int) := by
    rw [hx, hy, Int.natCast_ediv]
  refine (toInt_div _ _ ?_ ?_).trans hquotient
  · rw [hx]
    exact Int.natCast_nonneg m
  · rw [hy]
    exact Int.natCast_pos.mpr hn

/-- The mask clears the bits below a power of two. -/
theorem align [OfNat α 1] {k : Nat} (hsum : (x + y - 1).HasValue (m + 2 ^ k - 1))
    (hmask : (y - 1).HasValue (2 ^ k - 1)) : (align x y).HasValue (roundUp m (2 ^ k)) := by
  have hlow : toInt (y - 1).value = 2 ^ k - 1 := by
    rw [hmask, Nat.cast_sub (Nat.two_pow_pos k), Nat.cast_pow]
    rfl
  have hnonneg : 0 ≤ toInt (x + y - 1).value := by
    rw [hsum]
    exact Int.natCast_nonneg _
  calc toInt ((x + y - 1).value &&& ~~~(y - 1).value)
      = toInt (x + y - 1).value / 2 ^ k * 2 ^ k := toInt_and_not _ _ k hnonneg hlow
    _ = ((roundUp m (2 ^ k) : Nat) : Int) := by
        rw [hsum, roundUp]
        push_cast
        rfl

end HasValue

namespace Denotes

variable {x y : Tracked α} {m n : Nat}

/-- Denotations add up, since a sum outside the range is not exact. -/
theorem add (hx : x.Denotes m) (hy : y.Denotes n) : (x + y).Denotes (m + n) := by
  intro h
  obtain ⟨⟨hxe, hye⟩, hrange⟩ := exact_add.mp h
  obtain ⟨-, hupper⟩ := inRange_iff.mp hrange
  rw [hx hxe, hy hye, ← Nat.cast_add] at hupper
  exact (hx hxe).add (hy hye) hupper

/-- Denotations subtract, the smaller one from the larger one. -/
theorem sub (hx : x.Denotes m) (hy : y.Denotes n) (hle : n ≤ m) : (x - y).Denotes (m - n) := by
  intro h
  obtain ⟨⟨hxe, hye⟩, hrange⟩ := exact_sub.mp h
  obtain ⟨-, hupper⟩ := inRange_iff.mp hrange
  rw [hx hxe, hy hye, ← Nat.cast_sub hle] at hupper
  exact (hx hxe).sub (hy hye) hle hupper

/-- Denotations multiply. -/
theorem mul (hx : x.Denotes m) (hy : y.Denotes n) : (x * y).Denotes (m * n) := by
  intro h
  obtain ⟨⟨hxe, hye⟩, hrange⟩ := exact_mul.mp h
  obtain ⟨-, hupper⟩ := inRange_iff.mp hrange
  rw [hx hxe, hy hye, ← Nat.cast_mul] at hupper
  exact (hx hxe).mul (hy hye) hupper

/-- Denotations divide, by a positive one. -/
theorem div (hx : x.Denotes m) (hy : y.Denotes n) (hn : 0 < n) : (x / y).Denotes (m / n) := by
  intro h
  obtain ⟨hxe, hye⟩ := exact_div h
  exact (hx hxe).div (hy hye) hn

/-- The mask rounds up to a power of two. -/
theorem align [OfNat α 1] (hone : toInt (1 : α) = 1) {k : Nat} (hx : x.Denotes m)
    (hy : y.Denotes (2 ^ k)) : (align x y).Denotes (roundUp m (2 ^ k)) := by
  intro h
  obtain ⟨hsum, hmask⟩ := exact_align h
  have hpos : 0 < 2 ^ k := Nat.two_pow_pos k
  have hlit : (1 : Tracked α).Denotes 1 := fun _ => hone
  exact HasValue.align ((hx.add hy).sub hlit (by omega) hsum) (hy.sub hlit hpos hmask)

end Denotes

end Operations

/-- The conversion of a signed number, exact if it is not negative. -/
def toUInt32 (x : Tracked Int32) : Tracked UInt32 :=
  ⟨x.value.toUInt32, x.exact && decide (0 ≤ x.value.toInt)⟩

/-- The conversion of an unsigned number, exact if it is in the signed range. -/
def toInt32 (x : Tracked UInt32) : Tracked Int32 :=
  ⟨x.value.toInt32, x.exact && decide (x.value.toNat < 2 ^ 31)⟩

/-- An exact conversion to an unsigned type is of a number that is not negative. -/
theorem exact_toUInt32 {x : Tracked Int32} (h : x.toUInt32.exact = true) :
    x.exact = true ∧ 0 ≤ x.value.toInt := by
  obtain ⟨hexact, hrange⟩ := (Bool.and_eq_true _ _).mp h
  exact ⟨hexact, of_decide_eq_true hrange⟩

/-- A conversion to an unsigned type keeps what is denoted. -/
theorem Denotes.toUInt32 {x : Tracked Int32} {n : Nat} (hx : x.Denotes n) :
    x.toUInt32.Denotes n := by
  intro h
  obtain ⟨hexact, -⟩ := exact_toUInt32 h
  have hvalue : x.value.toInt = n := hx hexact
  obtain ⟨hbits, -⟩ := toInt_eq_toNat_of_nonneg (a := x.value) (by omega)
  exact hbits.symm.trans hvalue

/-- Below the sign bit both types agree. -/
theorem toInt_toInt32 {value : UInt32} (hlt : value.toNat < 2 ^ 31) :
    value.toInt32.toInt = value.toNat :=
  BitVec.toInt_eq_toNat_of_lt (x := value.toBitVec) (by rw [UInt32.toNat_toBitVec]; omega)

/-- A conversion to a signed type keeps what is denoted. -/
theorem Denotes.toInt32 {x : Tracked UInt32} {n : Nat} (hx : x.Denotes n) :
    x.toInt32.Denotes n := by
  intro h
  obtain ⟨hexact, hrange⟩ := (Bool.and_eq_true _ _).mp h
  exact (toInt_toInt32 (of_decide_eq_true hrange)).trans (hx hexact)

/-- The mask rounds up whenever the rounded number is in the range, also where the sum before it wraps
to zero. -/
theorem toNat_align {x a : UInt32} {k : Nat} (ha : a.toNat = 2 ^ k)
    (hfit : roundUp x.toNat (2 ^ k) < 2 ^ 32) :
    ((x + a - 1) &&& ~~~(a - 1)).toNat = roundUp x.toNat (2 ^ k) := by
  have hpos : 0 < 2 ^ k := Nat.two_pow_pos k
  have hpow : 2 ^ k ≤ 2 ^ 32 := ha ▸ a.toNat_lt.le
  have hk : k ≤ 32 := (Nat.pow_le_pow_iff_right (by decide)).mp hpow
  have hlast : roundUp x.toNat (2 ^ k) ≤ 2 ^ 32 - 2 ^ k := by
    have hdvd := Nat.dvd_sub (pow_dvd_pow 2 hk) (dvd_roundUp x.toNat (2 ^ k))
    have := Nat.le_of_dvd (by omega) hdvd
    omega
  have hle := le_roundUp x.toNat hpos
  have hmask : (a - 1).toNat = 2 ^ k - 1 := by
    rw [UInt32.toNat_sub_of_le a 1 (UInt32.le_iff_toNat_le.mpr (by rw [ha]; exact hpos)), ha]
    rfl
  have hsum : (x + a - 1).toNat = x.toNat + 2 ^ k - 1 := by
    rw [UInt32.sub_eq_add_neg, UInt32.add_assoc, ← UInt32.sub_eq_add_neg, UInt32.toNat_add, hmask,
      Nat.mod_eq_of_lt (by omega)]
    omega
  calc ((x + a - 1) &&& ~~~(a - 1)).toNat
      = (x + a - 1).toNat / 2 ^ k * 2 ^ k := and_not_low (x := (x + a - 1).toBitVec) hmask
    _ = roundUp x.toNat (2 ^ k) := by rw [hsum, roundUp]

end Tracked

end Yoshino.Library
