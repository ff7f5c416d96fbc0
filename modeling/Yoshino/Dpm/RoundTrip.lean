import Yoshino.Dpm.Utf16
import Yoshino.Dpm.Utf8

/-!
# Encoding and decoding again

Decoding what was encoded gives back every unit, zeros and unpaired surrogates included, and the
counted length is the number of units.
-/

namespace Yoshino.Dpm

open Yoshino.Library

theorem utf8SeqLength_one {byte : UInt8} (h : byte.toNat < 0xc0) : utf8SeqLength byte = 1 := by
  rw [utf8SeqLength_eq, if_pos h]

theorem utf8SeqLength_two {byte : UInt8} (h : 0xc0 ≤ byte.toNat ∧ byte.toNat < 0xe0) :
    utf8SeqLength byte = 2 := by
  rw [utf8SeqLength_eq, if_neg (by omega), if_pos h.2]

theorem utf8SeqLength_three {byte : UInt8} (h : 0xe0 ≤ byte.toNat ∧ byte.toNat < 0xf0) :
    utf8SeqLength byte = 3 := by
  rw [utf8SeqLength_eq, if_neg (by omega), if_neg (by omega), if_pos h.2]

/-- Reading an extension byte appends its payload. -/
theorem readExtensions_succ (byte : UInt8) (hbyte : 0x80 ≤ byte.toNat ∧ byte.toNat < 0xc0) (n : Nat)
    {ret : UInt32} (hret : ret.toNat < 2 ^ 26) (rest : List UInt8) :
    ∃ next : UInt32, next.toNat = ret.toNat * 64 + byte.toNat % 64 ∧
      readExtensions (n + 1) ret (byte :: rest) = readExtensions n next rest := by
  refine ⟨_, toNat_append_payload hret byte, ?_⟩
  rw [readExtensions, if_neg (byte_ne_zero (by omega)), if_neg]
  simp [(isExtension_iff byte).mpr hbyte]

/-- Reading the first byte of a sequence starts with its payload. -/
theorem getUtf32FromUtf8_lead (lead : UInt8) (hzero : 0 < lead.toNat)
    (hlead : ¬ (0x80 ≤ lead.toNat ∧ lead.toNat < 0xc0)) (rest : List UInt8) :
    ∃ ret : UInt32,
      (ret.toNat = if lead.toNat < 0xc0 then lead.toNat else if lead.toNat < 0xe0 then lead.toNat % 32
        else if lead.toNat < 0xf0 then lead.toNat % 16 else lead.toNat % 8) ∧
      getUtf32FromUtf8 (lead :: rest) = readExtensions (utf8SeqLength lead - 1) ret rest := by
  refine ⟨_, toNat_lead lead, ?_⟩
  rw [getUtf32FromUtf8, if_neg (mt (isExtension_iff lead).mp hlead), if_neg (byte_ne_zero hzero)]

/-- Three bytes are read as the unit they encode. -/
theorem getUtf32FromUtf8_long {unit : UInt16} (h : 0x07ff < unit.toNat) {top middle low : UInt8}
    (htop : top.toNat = 224 + unit.toNat / 4096) (hmiddle : middle.toNat = 128 + unit.toNat / 64 % 64)
    (hlow : low.toNat = 128 + unit.toNat % 64) (rest : List UInt8) :
    getUtf32FromUtf8 (top :: middle :: low :: rest) = some (unit.toUInt32, rest) := by
  have hunit := unit.toNat_lt
  have hseq : utf8SeqLength top = 3 := utf8SeqLength_three (by omega)
  obtain ⟨first, hfirst, hlead⟩ :=
    getUtf32FromUtf8_lead top (by omega) (by omega) (middle :: low :: rest)
  rw [if_neg (by omega), if_neg (by omega), if_pos (by omega)] at hfirst
  obtain ⟨second, hsecond, hread⟩ :=
    readExtensions_succ middle (by omega) 1 (show first.toNat < 2 ^ 26 by omega) (low :: rest)
  obtain ⟨third, hthird, hread'⟩ :=
    readExtensions_succ low (by omega) 0 (show second.toNat < 2 ^ 26 by omega) rest
  have hvalue : third = unit.toUInt32 := by
    rw [← UInt32.toNat_inj, UInt16.toNat_toUInt32]
    omega
  rw [hlead, hseq, hread, hread', readExtensions, hvalue]

/-- Two bytes are read as the unit they encode. -/
theorem getUtf32FromUtf8_middle {unit : UInt16} (h : unit.toNat ≤ 0x07ff) {high low : UInt8}
    (hhigh : high.toNat = 192 + unit.toNat / 64) (hlow : low.toNat = 128 + unit.toNat % 64)
    (rest : List UInt8) :
    getUtf32FromUtf8 (high :: low :: rest) = some (unit.toUInt32, rest) := by
  have hseq : utf8SeqLength high = 2 := utf8SeqLength_two (by omega)
  obtain ⟨first, hfirst, hlead⟩ := getUtf32FromUtf8_lead high (by omega) (by omega) (low :: rest)
  rw [if_neg (by omega), if_pos (by omega)] at hfirst
  obtain ⟨second, hsecond, hread⟩ :=
    readExtensions_succ low (by omega) 0 (show first.toNat < 2 ^ 26 by omega) rest
  have hvalue : second = unit.toUInt32 := by
    rw [← UInt32.toNat_inj, UInt16.toNat_toUInt32]
    omega
  rw [hlead, hseq, hread, readExtensions, hvalue]

/-- A byte is read as the unit it is. -/
theorem getUtf32FromUtf8_short {unit : UInt16} (h : unit.toNat ≤ 0x7f) (hzero : unit.toNat ≠ 0)
    {byte : UInt8} (hbyte : byte.toNat = unit.toNat) (rest : List UInt8) :
    getUtf32FromUtf8 (byte :: rest) = some (unit.toUInt32, rest) := by
  have hseq : utf8SeqLength byte = 1 := utf8SeqLength_one (by omega)
  obtain ⟨first, hfirst, hlead⟩ := getUtf32FromUtf8_lead byte (by omega) (by omega) rest
  rw [if_pos (by omega)] at hfirst
  have hvalue : first = unit.toUInt32 := by
    rw [← UInt32.toNat_inj, UInt16.toNat_toUInt32]
    omega
  rw [hlead, hseq, readExtensions, hvalue]

/-- A character that is a unit is written as that unit. -/
theorem utf16Units_toUInt32 (unit : UInt16) : utf16Units unit.toUInt32 = [unit] := by
  have hunit := unit.toNat_lt
  have hsmall : unit.toUInt32 ≤ 0xffff := by
    rw [UInt32.le_iff_toNat_le, UInt16.toNat_toUInt32, show (0xffff : UInt32).toNat = 0xffff from rfl]
    omega
  rw [utf16Units, if_pos hsmall]
  congr 1
  rw [← UInt16.toNat_inj, UInt32.toNat_toUInt16, UInt16.toNat_toUInt32, Nat.mod_eq_of_lt hunit]

/-- A round of the loop that reads a unit. -/
theorem decode_succ_of_unit {unit : UInt16} {byte : UInt8} (hzero : 0 < byte.toNat)
    {rest rest' : List UInt8} (hread : getUtf32FromUtf8 (byte :: rest) = some (unit.toUInt32, rest'))
    (fuel : Nat) : decode (fuel + 1) (byte :: rest) = (decode fuel rest').map (unit :: ·) := by
  rw [decode, if_neg (byte_ne_zero hzero), hread]
  dsimp only
  rw [utf16Units_toUInt32]
  rfl

/-- Decoding an encoded string gives it back, with fuel for each unit and the terminator. -/
theorem decode_encode (s : List UInt16) :
    ∀ fuel, s.length < fuel → decode fuel (encode s ++ [0]) = some s := by
  refine encode_rule
    (fun s bytes => ∀ fuel, s.length < fuel → decode fuel (bytes ++ [0]) = some s) ?_ ?_ ?_ ?_ s
  · intro fuel hfuel
    obtain ⟨fuel, rfl⟩ := Nat.exists_eq_add_of_lt hfuel
    simp [decode]
  · intro unit rest top middle low hlong htop hmiddle hlow ih fuel hfuel
    obtain ⟨fuel, rfl⟩ : ∃ n, fuel = n + 1 := ⟨fuel - 1, by omega⟩
    have hread := getUtf32FromUtf8_long hlong htop hmiddle hlow (encode rest ++ [0])
    rw [List.cons_append, List.cons_append, List.cons_append,
      decode_succ_of_unit (by omega) hread, ih fuel (by simpa using hfuel)]
    rfl
  · intro unit rest high low hunit hhigh hlow ih fuel hfuel
    obtain ⟨fuel, rfl⟩ : ∃ n, fuel = n + 1 := ⟨fuel - 1, by omega⟩
    have hread := getUtf32FromUtf8_middle hunit hhigh hlow (encode rest ++ [0])
    rw [List.cons_append, List.cons_append, decode_succ_of_unit (by omega) hread,
      ih fuel (by simpa using hfuel)]
    rfl
  · intro unit rest byte hshort hzero hbyte ih fuel hfuel
    obtain ⟨fuel, rfl⟩ : ∃ n, fuel = n + 1 := ⟨fuel - 1, by omega⟩
    have hread := getUtf32FromUtf8_short hshort hzero hbyte (encode rest ++ [0])
    rw [List.cons_append, decode_succ_of_unit (by omega) hread, ih fuel (by simpa using hfuel)]
    rfl

/-- An extension byte by its value. -/
theorem countUnits_of_extension (byte : UInt8) (hbyte : 0x80 ≤ byte.toNat ∧ byte.toNat < 0xc0)
    {expected : Int} (hexpected : 0 < expected) (len : Nat) (rest : List UInt8) :
    countUnits expected len (byte :: rest) = countUnits (expected - 1) len rest :=
  countUnits_extension ((isExtension_iff byte).mpr hbyte) (byte_ne_zero (by omega)) hexpected len rest

/-- A first byte by its value. -/
theorem countUnits_of_lead (byte : UInt8) (hzero : 0 < byte.toNat)
    (hlead : ¬ (0x80 ≤ byte.toNat ∧ byte.toNat < 0xc0)) {n : Nat} (hseq : utf8SeqLength byte = n)
    (hthree : n ≤ 3) (expected : Int) (len : Nat) (rest : List UInt8) :
    countUnits expected len (byte :: rest) = countUnits ((n : Int) - 1) (len + 1) rest := by
  have hext : isExtension byte = false := Bool.eq_false_iff.mpr (mt (isExtension_iff byte).mp hlead)
  rw [countUnits_lead (byte_ne_zero hzero) hext, hseq, if_neg (by omega)]

/-- Every encoded unit counts once. -/
theorem countUnits_encode (s : List UInt16) : ∀ (expected : Int) (len : Nat),
    countUnits expected len (encode s ++ [0]) = some (len + s.length) := by
  refine encode_rule (fun s bytes => ∀ (expected : Int) (len : Nat),
    countUnits expected len (bytes ++ [0]) = some (len + s.length)) ?_ ?_ ?_ ?_ s
  · intro expected len
    simp [countUnits]
  · intro unit rest top middle low hlong htop hmiddle hlow ih expected len
    have hunit := unit.toNat_lt
    rw [List.cons_append, List.cons_append, List.cons_append,
      countUnits_of_lead _ (by omega) (by omega) (utf8SeqLength_three (by omega)) le_rfl,
      countUnits_of_extension _ (by omega) (by decide),
      countUnits_of_extension _ (by omega) (by decide), ih, List.length_cons, Nat.add_right_comm,
      Nat.add_assoc]
  · intro unit rest high low hunit hhigh hlow ih expected len
    rw [List.cons_append, List.cons_append,
      countUnits_of_lead _ (by omega) (by omega) (utf8SeqLength_two (by omega)) (by decide),
      countUnits_of_extension _ (by omega) (by decide), ih, List.length_cons, Nat.add_right_comm,
      Nat.add_assoc]
  · intro unit rest byte hshort hzero hbyte ih expected len
    rw [List.cons_append,
      countUnits_of_lead _ (by omega) (by omega) (utf8SeqLength_one (by omega)) (by decide), ih,
      List.length_cons, Nat.add_right_comm, Nat.add_assoc]

/-- Encoding and decoding again is the identity on strings of units, and the counted length of the
encoded string is the number of units. -/
theorem strcpy8to16_strncpy16to8 (s : List UInt16) :
    strcpy8to16 (strncpy16to8 s) = some s ∧ strlen8to16 (strncpy16to8 s) = some s.length := by
  have hfuel : s.length < (strncpy16to8 s).length := by
    have hlength := (length_encode_bounds s).1
    rw [strncpy16to8, List.length_append, List.length_singleton]
    omega
  refine ⟨decode_encode s _ hfuel, ?_⟩
  rw [strlen8to16, strncpy16to8, countUnits_encode, Nat.zero_add]

end Yoshino.Dpm
