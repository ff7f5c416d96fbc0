import Mathlib.Data.List.Basic
import Yoshino.Library.BitFields

/-!
# From modified UTF-8 to UTF-16

`strdup8to16` counts the units a string of bytes needs with `strlen8to16` and decodes it with
`strcpy8to16`, sequence by sequence, putting a replacement character for what is malformed. A string in
memory is given with its terminator and nothing after it: a function that would read further has no
result. `strlen8to16` has none either when its `int` counter of the bytes still expected underflows.
-/

namespace Yoshino.Dpm

open Yoshino.Library

/-- `UTF16_REPLACEMENT_CHAR`. -/
def utf16ReplacementChar : UInt32 := 0xfffd

/-- `UTF8_SEQ_LENGTH`. -/
def utf8SeqLength (ch : UInt8) : Nat :=
  (((0xe5000000 : UInt32) >>> ((ch.toUInt32 >>> 3) &&& 0x1e)) &&& 3).toNat + 1

/-- The test for a byte that starts with the bits `10`. -/
def isExtension (ch : UInt8) : Bool := ch &&& 0xc0 == 0x80

/-- `leaderMask`, by the length of the sequence. -/
def leaderMask : Nat → UInt8
  | 1 => 0xff
  | 2 => 0x1f
  | 3 => 0x0f
  | _ => 0x07

/-- The loop of `strlen8to16`; the counter is an `int`. -/
def countUnits (expected : Int) (len : Nat) : List UInt8 → Option Nat
  | [] => none
  | ic :: rest =>
    if ic = 0 then some len
    else if isExtension ic then
      if expected - 1 < -2 ^ 31 then none
      else countUnits (expected - 1) (if expected - 1 < 0 then len + 1 else len) rest
    else
      let expected := (utf8SeqLength ic : Int) - 1
      countUnits expected (if expected = 3 then len + 1 + 1 else len + 1) rest

/-- `strlen8to16`. -/
def strlen8to16 (utf8Str : List UInt8) : Option Nat := countUnits 0 0 utf8Str

/-- The loop of `getUtf32FromUtf8`, with the number of bytes still to read. -/
def readExtensions : Nat → UInt32 → List UInt8 → Option (UInt32 × List UInt8)
  | 0, ret, utf8Ptr => some (ret, utf8Ptr)
  | _ + 1, _, [] => none
  | n + 1, ret, byte :: rest =>
    if byte = 0 then some (utf16ReplacementChar, byte :: rest)
    else if !isExtension byte then some (utf16ReplacementChar, byte :: rest)
    else readExtensions n ((ret <<< 6) ||| (0x3f &&& byte).toUInt32) rest

/-- `getUtf32FromUtf8`: the character and where the pointer stands after it. -/
def getUtf32FromUtf8 : List UInt8 → Option (UInt32 × List UInt8)
  | [] => none
  | lead :: rest =>
    if isExtension lead then some (utf16ReplacementChar, rest)
    else
      let seqLen := utf8SeqLength lead
      let ret := (lead &&& leaderMask seqLen).toUInt32
      if lead = 0 then some (ret, lead :: rest)
      else readExtensions (seqLen - 1) ret rest

/-- The units `strcpy8to16` writes for a character. -/
def utf16Units (ret : UInt32) : List UInt16 :=
  if ret ≤ 0xffff then [ret.toUInt16]
  else if ret ≤ 0x10fffd then
    let high := (0xd800 : UInt32) ||| ((ret - 0x10000) >>> 10)
    let low := (0xdc00 : UInt32) ||| ((ret - 0x10000) &&& 0x3ff)
    [high.toUInt16, low.toUInt16]
  else [utf16ReplacementChar.toUInt16]

/-- The loop of `strcpy8to16`; each round reads at least a byte, so that the length of the string is
fuel enough. -/
def decode : Nat → List UInt8 → Option (List UInt16)
  | 0, _ => none
  | _ + 1, [] => none
  | fuel + 1, byte :: rest =>
    if byte = 0 then some []
    else match getUtf32FromUtf8 (byte :: rest) with
      | none => none
      | some (ret, utf8Str) => (decode fuel utf8Str).map (utf16Units ret ++ ·)

/-- `strcpy8to16`: the units it writes, whose number is `out_len`. -/
def strcpy8to16 (utf8Str : List UInt8) : Option (List UInt16) := decode utf8Str.length utf8Str

/-- Every byte can be tried. -/
theorem forall_byte {P : UInt8 → Prop} (h : ∀ n : Fin 256, P (.ofNat n)) (ch : UInt8) : P ch := by
  have hch := h ⟨ch.toNat, ch.toNat_lt⟩
  rwa [UInt8.ofNat_toNat] at hch

/-- The length of a sequence, by the range of its first byte. -/
theorem utf8SeqLength_eq (ch : UInt8) :
    utf8SeqLength ch =
      if ch.toNat < 0xc0 then 1 else if ch.toNat < 0xe0 then 2 else if ch.toNat < 0xf0 then 3 else 4 := by
  revert ch
  exact forall_byte (by decide +kernel)

/-- The extension bytes are a range. -/
theorem isExtension_iff (ch : UInt8) : isExtension ch = true ↔ 0x80 ≤ ch.toNat ∧ ch.toNat < 0xc0 := by
  revert ch
  exact forall_byte (by decide +kernel)

/-- The payload of an extension byte. -/
theorem toNat_payload (ch : UInt8) : (0x3f &&& ch).toUInt32.toNat = ch.toNat % 64 := by
  revert ch
  exact forall_byte (by decide +kernel)

/-- The payload of the first byte of a longer sequence. -/
theorem toNat_lead (ch : UInt8) :
    (ch &&& leaderMask (utf8SeqLength ch)).toUInt32.toNat =
      if ch.toNat < 0xc0 then ch.toNat else if ch.toNat < 0xe0 then ch.toNat % 32
      else if ch.toNat < 0xf0 then ch.toNat % 16 else ch.toNat % 8 := by
  revert ch
  exact forall_byte (by decide +kernel)

/-- Reading an extension byte appends six bits. -/
theorem toNat_append_payload {ret : UInt32} (h : ret.toNat < 2 ^ 26) (ch : UInt8) :
    ((ret <<< 6) ||| (0x3f &&& ch).toUInt32).toNat = ret.toNat * 64 + ch.toNat % 64 := by
  have hshift : (ret <<< 6).toNat = ret.toNat * 2 ^ 6 :=
    toNat_shiftLeft_eq_mul ret 6 rfl (by decide) (by omega)
  have hpayload : ch.toNat % 64 < 2 ^ 6 := Nat.mod_lt _ (by decide)
  rw [UInt32.toNat_or, hshift, toNat_payload, Nat.mul_comm ret.toNat,
    ← Nat.two_pow_add_eq_or_of_lt hpayload]
  omega

/-- A byte with a positive value is not the terminator. -/
theorem byte_ne_zero {ch : UInt8} (h : 0 < ch.toNat) : ch ≠ 0 := fun hzero => by
  rw [hzero] at h
  exact absurd h (by decide)

/-- The first byte of a sequence counts as a unit, of a sequence of four as two. -/
theorem countUnits_lead {byte : UInt8} (hzero : byte ≠ 0) (hlead : isExtension byte = false)
    (expected : Int) (len : Nat) (rest : List UInt8) :
    countUnits expected len (byte :: rest) =
      countUnits ((utf8SeqLength byte : Int) - 1)
        (if utf8SeqLength byte = 4 then len + 2 else len + 1) rest := by
  have hfour : (utf8SeqLength byte : Int) - 1 = 3 ↔ utf8SeqLength byte = 4 := by omega
  rw [countUnits, if_neg hzero, if_neg (by simp [hlead])]
  simp only [hfour]

/-- An extension byte that was expected does not count. -/
theorem countUnits_extension {byte : UInt8} (hext : isExtension byte = true) (hzero : byte ≠ 0)
    {expected : Int} (hexpected : 0 < expected) (len : Nat) (rest : List UInt8) :
    countUnits expected len (byte :: rest) = countUnits (expected - 1) len rest := by
  rw [countUnits, if_neg hzero, if_pos hext, if_neg (by omega), if_neg (by omega)]

end Yoshino.Dpm
