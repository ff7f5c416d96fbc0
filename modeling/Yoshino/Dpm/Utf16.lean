import Yoshino.Library.BitFields

/-!
# From UTF-16 to modified UTF-8

`strndup16to8` measures the encoding of a UTF-16 string, allocates one byte more and encodes. The
encoding is Java's: each unit by itself, a zero unit as `c0 80`. `strnlen16to8` measures short strings
without looking at overflow and long ones with a check at every step; a measure that would exceed
`SIZE_MAX - 1` is cut to it.
-/

namespace Yoshino.Dpm

open Yoshino.Library

/-- `SIZE_MAX`, which is at least 65535. -/
abbrev SizeMax := { n : Nat // 65535 ≤ n }

/-- The loop of `strncpy16to8`: the bytes before the terminator. -/
def encode : List UInt16 → List UInt8
  | [] => []
  | unit :: rest =>
    let uic := unit.toUInt32
    if uic > 0x07ff then
      ((uic >>> 12) ||| 0xe0).toUInt8 :: (((uic >>> 6) &&& 0x3f) ||| 0x80).toUInt8 ::
        ((uic &&& 0x3f) ||| 0x80).toUInt8 :: encode rest
    else if uic > 0x7f || uic == 0 then
      ((uic >>> 6) ||| 0xc0).toUInt8 :: ((uic &&& 0x3f) ||| 0x80).toUInt8 :: encode rest
    else
      uic.toUInt8 :: if uic == 0 then [] else encode rest

/-- `strncpy16to8`: what it writes. -/
def strncpy16to8 (utf16Str : List UInt16) : List UInt8 := encode utf16Str ++ [0]

/-- The bytes a unit is counted for. -/
def unitBytes (unit : UInt16) : Nat :=
  let uic := unit.toUInt32
  if uic > 0x07ff then 3
  else if uic > 0x7f || uic == 0 then 2
  else 1

/-- The fast loop of `strnlen16to8`, in arithmetic modulo `SIZE_MAX + 1`. -/
def fastLength (sizeMax : SizeMax) : Nat → List UInt16 → Nat
  | utf8Len, [] => utf8Len
  | utf8Len, unit :: rest => fastLength sizeMax ((utf8Len + unitBytes unit) % (sizeMax + 1)) rest

/-- The paranoid loop of `strnlen16to8`. -/
def paranoidLength (sizeMax : SizeMax) : Nat → List UInt16 → Nat
  | utf8Len, [] => if utf8Len = sizeMax then sizeMax - 1 else utf8Len
  | utf8Cur, unit :: rest =>
    let utf8Len := (utf8Cur + unitBytes unit) % (sizeMax + 1)
    if utf8Len < utf8Cur then sizeMax - 1 else paranoidLength sizeMax utf8Len rest

/-- `strnlen16to8`. -/
def strnlen16to8 (sizeMax : SizeMax) (utf16Str : List UInt16) : Nat :=
  if utf16Str.length < (sizeMax - 1) / 3 then fastLength sizeMax 0 utf16Str
  else paranoidLength sizeMax 0 utf16Str

/-- A block of memory and what is written into it. -/
structure Block where
  capacity : Nat
  bytes : List UInt8
  deriving DecidableEq, Repr

/-- `strndup16to8`, given which requests `malloc` meets; the null pointer is `none`. -/
def strndup16to8 (sizeMax : SizeMax) (malloc : Nat → Bool) (s : Option (List UInt16)) :
    Option Block :=
  match s with
  | none => none
  | some s =>
    let len := strnlen16to8 sizeMax s
    if len ≥ sizeMax - 1 then none
    else if !malloc (len + 1) then none
    else some ⟨len + 1, strncpy16to8 s⟩

/-- The test for three bytes. -/
theorem uic_long_iff (unit : UInt16) : unit.toUInt32 > 0x07ff ↔ 0x07ff < unit.toNat := by
  rw [gt_iff_lt, UInt32.lt_iff_toNat_lt, UInt16.toNat_toUInt32]
  rfl

/-- The test for two bytes. -/
theorem uic_middle_iff (unit : UInt16) :
    (unit.toUInt32 > 0x7f || unit.toUInt32 == 0) = true ↔ 0x7f < unit.toNat ∨ unit.toNat = 0 := by
  rw [Bool.or_eq_true, decide_eq_true_iff, gt_iff_lt, UInt32.lt_iff_toNat_lt, beq_iff_eq,
    ← UInt32.toNat_inj, UInt16.toNat_toUInt32]
  rfl

/-- A unit above `0x7ff` takes three bytes. -/
theorem encode_long {unit : UInt16} (h : 0x07ff < unit.toNat) (rest : List UInt16) :
    encode (unit :: rest) =
      UInt8.ofNat (224 + unit.toNat / 4096) :: UInt8.ofNat (128 + unit.toNat / 64 % 64) ::
        UInt8.ofNat (128 + unit.toNat % 64) :: encode rest := by
  have hunit := unit.toNat_lt
  have huic : unit.toUInt32.toNat = unit.toNat := unit.toNat_toUInt32
  have htop : (unit.toUInt32 >>> 12).toNat = unit.toNat / 2 ^ 12 := by
    rw [toNat_shiftRight_eq_div _ 12 rfl (by decide), huic]
  have hmiddle : ((unit.toUInt32 >>> 6) &&& 0x3f).toNat = unit.toNat / 2 ^ 6 % 2 ^ 6 := by
    rw [toNat_and_mask _ 6 rfl, toNat_shiftRight_eq_div _ 6 rfl (by decide), huic]
  have hlow : (unit.toUInt32 &&& 0x3f).toNat = unit.toNat % 2 ^ 6 := by
    rw [toNat_and_mask _ 6 rfl, huic]
  rw [encode, if_pos ((uic_long_iff unit).mpr h), toUInt8_or_mark 5 7 rfl (by omega),
    toUInt8_or_mark 6 2 rfl (by omega), toUInt8_or_mark 6 2 rfl (by omega), htop, hmiddle, hlow]
  rfl

/-- A unit above `0x7f`, and zero, takes two bytes. -/
theorem encode_middle {unit : UInt16} (hlong : ¬ 0x07ff < unit.toNat)
    (hmiddle : 0x7f < unit.toNat ∨ unit.toNat = 0) (rest : List UInt16) :
    encode (unit :: rest) =
      UInt8.ofNat (192 + unit.toNat / 64) :: UInt8.ofNat (128 + unit.toNat % 64) :: encode rest := by
  have huic : unit.toUInt32.toNat = unit.toNat := unit.toNat_toUInt32
  have hhigh : (unit.toUInt32 >>> 6).toNat = unit.toNat / 2 ^ 6 := by
    rw [toNat_shiftRight_eq_div _ 6 rfl (by decide), huic]
  have hlow : (unit.toUInt32 &&& 0x3f).toNat = unit.toNat % 2 ^ 6 := by
    rw [toNat_and_mask _ 6 rfl, huic]
  rw [encode, if_neg (mt (uic_long_iff unit).mp hlong), if_pos ((uic_middle_iff unit).mpr hmiddle),
    toUInt8_or_mark 5 6 rfl (by omega), toUInt8_or_mark 6 2 rfl (by omega), hhigh, hlow]
  rfl

/-- Any other unit is a byte, and not the zero byte at which the loop would stop. -/
theorem encode_short {unit : UInt16} (hlong : ¬ 0x07ff < unit.toNat)
    (hmiddle : ¬ (0x7f < unit.toNat ∨ unit.toNat = 0)) (rest : List UInt16) :
    encode (unit :: rest) = UInt8.ofNat unit.toNat :: encode rest := by
  have hbyte : unit.toUInt32.toUInt8 = UInt8.ofNat unit.toNat := UInt8.toNat_inj.mp (by
    rw [UInt32.toNat_toUInt8, UInt16.toNat_toUInt32, UInt8.toNat_ofNat'])
  have hnonzero : ¬ (unit.toUInt32 == 0) = true := fun hzero =>
    hmiddle ((uic_middle_iff unit).mp (Bool.or_eq_true_iff.mpr (.inr hzero)))
  rw [encode, if_neg (mt (uic_long_iff unit).mp hlong), if_neg (mt (uic_middle_iff unit).mp hmiddle),
    if_neg hnonzero, hbyte]

/-- A byte that is written with a value below 256. -/
theorem toNat_ofNat_byte {n : Nat} (h : n < 256) : (UInt8.ofNat n).toNat = n := by
  rw [UInt8.toNat_ofNat', Nat.mod_eq_of_lt (show n < 2 ^ 8 by omega)]

/-- A rule to prove something of every encoding: by the number of bytes of the first unit. -/
theorem encode_rule (P : List UInt16 → List UInt8 → Prop) (hnil : P [] [])
    (hlong : ∀ (unit : UInt16) rest (top middle low : UInt8), 0x07ff < unit.toNat →
      top.toNat = 224 + unit.toNat / 4096 → middle.toNat = 128 + unit.toNat / 64 % 64 →
      low.toNat = 128 + unit.toNat % 64 → P rest (encode rest) →
        P (unit :: rest) (top :: middle :: low :: encode rest))
    (hmiddle : ∀ (unit : UInt16) rest (high low : UInt8), unit.toNat ≤ 0x07ff →
      high.toNat = 192 + unit.toNat / 64 → low.toNat = 128 + unit.toNat % 64 →
      P rest (encode rest) → P (unit :: rest) (high :: low :: encode rest))
    (hshort : ∀ (unit : UInt16) rest (byte : UInt8), unit.toNat ≤ 0x7f → unit.toNat ≠ 0 →
      byte.toNat = unit.toNat → P rest (encode rest) → P (unit :: rest) (byte :: encode rest))
    (s : List UInt16) : P s (encode s) := by
  induction s with
  | nil => exact hnil
  | cons unit rest ih =>
    have hunit := unit.toNat_lt
    by_cases h : 0x07ff < unit.toNat
    · rw [encode_long h]
      exact hlong unit rest _ _ _ h (toNat_ofNat_byte (by omega)) (toNat_ofNat_byte (by omega))
        (toNat_ofNat_byte (by omega)) ih
    · by_cases h' : 0x7f < unit.toNat ∨ unit.toNat = 0
      · rw [encode_middle h h']
        exact hmiddle unit rest _ _ (by omega) (toNat_ofNat_byte (by omega))
          (toNat_ofNat_byte (by omega)) ih
      · rw [encode_short h h']
        exact hshort unit rest _ (by omega) (by omega) (toNat_ofNat_byte (by omega)) ih

/-- A unit is counted for as many bytes as it takes. -/
theorem length_encode_cons (unit : UInt16) (rest : List UInt16) :
    (encode (unit :: rest)).length = unitBytes unit + (encode rest).length := by
  unfold unitBytes
  dsimp only
  split
  next h =>
    rw [encode_long ((uic_long_iff unit).mp h)]
    simp only [List.length_cons]
    omega
  next h =>
    split
    next h' =>
      rw [encode_middle (mt (uic_long_iff unit).mpr h) ((uic_middle_iff unit).mp h')]
      simp only [List.length_cons]
      omega
    next h' =>
      rw [encode_short (mt (uic_long_iff unit).mpr h) (mt (uic_middle_iff unit).mpr h')]
      simp only [List.length_cons]
      omega

/-- A unit takes one to three bytes. -/
theorem unitBytes_bounds (unit : UInt16) : 1 ≤ unitBytes unit ∧ unitBytes unit ≤ 3 := by
  unfold unitBytes
  dsimp only
  split
  · decide
  · split <;> decide

/-- A string takes one to three bytes a unit. -/
theorem length_encode_bounds (s : List UInt16) :
    s.length ≤ (encode s).length ∧ (encode s).length ≤ 3 * s.length := by
  induction s with
  | nil => decide
  | cons unit rest ih =>
    have hunit := unitBytes_bounds unit
    rw [length_encode_cons, List.length_cons]
    omega

/-- The fast loop is exact below the end of the range. -/
theorem fastLength_eq (sizeMax : SizeMax) (s : List UInt16) (utf8Len : Nat)
    (h : utf8Len + (encode s).length ≤ sizeMax) :
    fastLength sizeMax utf8Len s = utf8Len + (encode s).length := by
  induction s generalizing utf8Len with
  | nil => rfl
  | cons unit rest ih =>
    rw [length_encode_cons] at h ⊢
    rw [fastLength, Nat.mod_eq_of_lt (by omega), ih _ (by omega)]
    omega

/-- The paranoid loop is exact up to one below the end of the range: a sum that wraps around is smaller
than before, since a unit takes far fewer bytes than the range has. -/
theorem paranoidLength_eq (sizeMax : SizeMax) (s : List UInt16) (utf8Len : Nat)
    (h : utf8Len ≤ sizeMax) :
    paranoidLength sizeMax utf8Len s = min (utf8Len + (encode s).length) (sizeMax - 1) := by
  have hsize := sizeMax.property
  induction s generalizing utf8Len with
  | nil =>
    have hlength : (encode []).length = 0 := rfl
    rw [paranoidLength, hlength]
    split <;> omega
  | cons unit rest ih =>
    have hunit := (unitBytes_bounds unit).2
    rw [length_encode_cons, paranoidLength]
    by_cases hwraps : sizeMax < utf8Len + unitBytes unit
    · have hmod : (utf8Len + unitBytes unit) % (sizeMax + 1) =
          utf8Len + unitBytes unit - (sizeMax + 1) := by
        rw [Nat.mod_eq_sub_mod (by omega), Nat.mod_eq_of_lt (by omega)]
      rw [hmod, if_pos (by omega)]
      omega
    · rw [Nat.mod_eq_of_lt (by omega), if_neg (by omega), ih _ (by omega)]
      omega

/-- The measure is the number of bytes written before the terminator, cut to `SIZE_MAX - 1`; where the
fast loop is chosen, both loops agree. The copy is made exactly when that number is below `SIZE_MAX - 1`
and `malloc` meets a request of one byte more, all of which is then filled. -/
theorem strnlen16to8_exact (sizeMax : SizeMax) (s : List UInt16) :
    let bytes := (encode s).length
    strnlen16to8 sizeMax s = min bytes (sizeMax - 1) ∧
      (s.length < (sizeMax - 1) / 3 → fastLength sizeMax 0 s = paranoidLength sizeMax 0 s) ∧
      (strncpy16to8 s).length = bytes + 1 ∧
      ∀ malloc, strndup16to8 sizeMax malloc (some s) =
        if bytes < sizeMax - 1 ∧ malloc (bytes + 1) then some ⟨bytes + 1, strncpy16to8 s⟩ else none := by
  intro bytes
  have hsize := sizeMax.property
  have hparanoid := paranoidLength_eq sizeMax s 0 (Nat.zero_le _)
  rw [Nat.zero_add] at hparanoid
  have hfast : s.length < (sizeMax - 1) / 3 → fastLength sizeMax 0 s = bytes ∧ bytes < sizeMax - 1 := by
    intro hshort
    have hbytes : bytes ≤ 3 * s.length := (length_encode_bounds s).2
    exact ⟨by rw [fastLength_eq sizeMax s 0 (by omega), Nat.zero_add], by omega⟩
  have hlength : strnlen16to8 sizeMax s = min bytes (sizeMax - 1) := by
    unfold strnlen16to8
    split
    next hshort =>
      obtain ⟨hexact, hbelow⟩ := hfast hshort
      omega
    · exact hparanoid
  refine ⟨hlength, fun hshort => ?_, by simp [strncpy16to8, bytes], fun malloc => ?_⟩
  · obtain ⟨hexact, hbelow⟩ := hfast hshort
    omega
  · unfold strndup16to8
    dsimp only
    rw [hlength]
    by_cases hbelow : bytes < sizeMax - 1
    · rw [min_eq_left hbelow.le, if_neg (by omega)]
      cases malloc (bytes + 1) <;> simp [hbelow]
    · rw [if_pos (by omega), if_neg (fun h => hbelow h.1)]

end Yoshino.Dpm
