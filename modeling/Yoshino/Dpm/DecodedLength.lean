import Mathlib.Tactic.Linarith
import Mathlib.Tactic.Ring
import Yoshino.Dpm.ExtensionRuns

/-!
# The units a string of bytes is decoded to

`strcpy8to16` reads nothing after the terminator and writes no more units than `strlen8to16` counts,
whatever the bytes are: each sequence, complete or cut short, and each surplus extension byte counts for
at least the units written for it. The string has a counted length only if the counter does not
underflow.
-/

namespace Yoshino.Dpm

/-- Expected extension bytes are not counted. -/
theorem needed_append_of_expected {taken : List UInt8} (hall : ∀ byte ∈ taken, isExtension byte = true)
    (expected : Int) (hexpected : taken.length ≤ expected) (rest : List UInt8) :
    needed expected (taken ++ rest) = needed (expected - taken.length) rest := by
  induction taken generalizing expected with
  | nil => simp
  | cons byte taken ih =>
    obtain ⟨hbyte, htaken⟩ := List.forall_mem_cons.mp hall
    rw [List.length_cons] at hexpected ⊢
    rw [List.cons_append, needed, if_pos hbyte, if_neg (by omega), ih htaken _ (by omega), Nat.zero_add]
    congr 1
    omega

/-- The counter does not matter before a first byte. -/
theorem needed_of_lead {rest : List UInt8} (h : ∀ byte ∈ rest.head?, isExtension byte = false)
    (expected expected' : Int) : needed expected rest = needed expected' rest := by
  cases rest with
  | nil => rfl
  | cons byte rest => simp [needed, h byte rfl]

/-- The extension bytes of a sequence: as many as expected are read, or a byte that is none ends it. At
most sixteen bits are read as at most sixteen bits. -/
theorem readExtensions_spec (n : Nat) (ret : UInt32) (text : List UInt8) (hnul : 0 ∉ text) :
    ∃ taken rest r, text = taken ++ rest ∧ (∀ byte ∈ taken, isExtension byte = true) ∧
      taken.length ≤ n ∧ readExtensions n ret (text ++ [0]) = some (r, rest ++ [0]) ∧
      (taken.length = n ∨ ∀ byte ∈ rest.head?, isExtension byte = false) ∧
      ((ret.toNat + 1) * 64 ^ n ≤ 65536 → r.toNat < 65536) := by
  induction n generalizing ret text with
  | zero =>
    refine ⟨[], text, ret, rfl, by simp, le_rfl, by rw [readExtensions], .inl rfl, fun h => ?_⟩
    omega
  | succ n ih =>
    cases text with
    | nil =>
      refine ⟨[], [], utf16ReplacementChar, rfl, by simp, Nat.zero_le _, ?_, .inr (by simp), fun _ => ?_⟩
      · simp [readExtensions]
      · decide
    | cons byte rest =>
      rw [List.mem_cons, not_or] at hnul
      have hzero : byte ≠ 0 := Ne.symm hnul.1
      cases hext : isExtension byte with
      | false =>
        refine ⟨[], byte :: rest, utf16ReplacementChar, rfl, by simp, Nat.zero_le _, ?_,
          .inr (by simpa using hext), fun _ => by decide⟩
        simp [readExtensions, hzero, hext]
      | true =>
        obtain ⟨taken, rest', r, rfl, hall, hlength, hread, hend, hvalue⟩ :=
          ih ((ret <<< 6) ||| (0x3f &&& byte).toUInt32) rest hnul.2
        refine ⟨byte :: taken, rest', r, rfl, List.forall_mem_cons.mpr ⟨hext, hall⟩,
          Nat.succ_le_succ hlength, ?_, hend.imp_left (congrArg (· + 1)), fun hsmall => hvalue ?_⟩
        · rw [List.cons_append, readExtensions, if_neg hzero, if_neg (by simp [hext]), hread]
        · have hpositive : 1 ≤ 64 ^ n := Nat.one_le_pow _ _ (by decide)
          have hret : ret.toNat < 2 ^ 26 := by
            rw [pow_succ] at hsmall
            nlinarith
          rw [toNat_append_payload hret]
          have hpayload : byte.toNat % 64 < 64 := Nat.mod_lt _ (by decide)
          calc (ret.toNat * 64 + byte.toNat % 64 + 1) * 64 ^ n
              ≤ ((ret.toNat + 1) * 64) * 64 ^ n := Nat.mul_le_mul_right _ (by omega)
            _ = (ret.toNat + 1) * 64 ^ (n + 1) := by rw [pow_succ]; ring
            _ ≤ 65536 := hsmall

/-- A character takes at most two units. -/
theorem length_utf16Units_le (ret : UInt32) : (utf16Units ret).length ≤ 2 := by
  unfold utf16Units
  split
  · simp
  · split <;> simp

/-- A character of sixteen bits takes one. -/
theorem length_utf16Units_of_lt {ret : UInt32} (h : ret.toNat < 65536) :
    (utf16Units ret).length = 1 := by
  have hsmall : ret ≤ 0xffff := by
    rw [UInt32.le_iff_toNat_le, show (0xffff : UInt32).toNat = 65535 from rfl]
    omega
  rw [utf16Units, if_pos hsmall, List.length_singleton]

/-- A sequence of up to three bytes is read as at most sixteen bits. -/
theorem lead_bits {byte : UInt8} (hlead : isExtension byte = false) (hfour : utf8SeqLength byte ≠ 4) :
    ((byte &&& leaderMask (utf8SeqLength byte)).toUInt32.toNat + 1) * 64 ^ (utf8SeqLength byte - 1) ≤
      65536 := by
  revert byte
  exact fun {byte} => forall_byte (P := fun byte => isExtension byte = false → utf8SeqLength byte ≠ 4 →
    ((byte &&& leaderMask (utf8SeqLength byte)).toUInt32.toNat + 1) * 64 ^ (utf8SeqLength byte - 1) ≤
      65536) (by decide +kernel) byte

/-- A sequence has at least a byte. -/
theorem one_le_utf8SeqLength (byte : UInt8) : 1 ≤ utf8SeqLength byte := Nat.le_add_left _ _

/-- The units written for a character are counted for the bytes it is read from. -/
theorem getUtf32FromUtf8_spec {byte : UInt8} {text : List UInt8} (hnul : 0 ∉ byte :: text) :
    ∃ r rest, getUtf32FromUtf8 (byte :: (text ++ [0])) = some (r, rest ++ [0]) ∧
      rest.length ≤ text.length ∧ 0 ∉ rest ∧
      ∀ expected ≤ 0, ∃ expected' ≤ 0,
        (utf16Units r).length + needed expected' rest ≤ needed expected (byte :: text) := by
  rw [List.mem_cons, not_or] at hnul
  have hzero : byte ≠ 0 := Ne.symm hnul.1
  cases hext : isExtension byte with
  | true =>
    -- a surplus byte gets a replacement character
    refine ⟨utf16ReplacementChar, text, by rw [getUtf32FromUtf8, if_pos hext], le_rfl, hnul.2, ?_⟩
    intro expected hexpected
    refine ⟨expected - 1, by omega, ?_⟩
    rw [length_utf16Units_of_lt (by decide), needed, if_pos hext, if_pos (by omega)]
  | false =>
    have hseq := one_le_utf8SeqLength byte
    obtain ⟨taken, rest, r, rfl, hall, hlength, hread, hend, hvalue⟩ :=
      readExtensions_spec (utf8SeqLength byte - 1) (byte &&& leaderMask (utf8SeqLength byte)).toUInt32
        text hnul.2
    refine ⟨r, rest, ?_, by simp, fun hmem => hnul.2 (List.mem_append_right _ hmem), ?_⟩
    · rw [getUtf32FromUtf8, if_neg (by simp [hext]), if_neg hzero, hread]
    · intro expected hexpected
      have hrest : needed ((utf8SeqLength byte : Int) - 1) (taken ++ rest) = needed 0 rest := by
        rw [needed_append_of_expected hall _ (by omega)]
        rcases hend with hcomplete | hcut
        · congr 1
          omega
        · exact needed_of_lead hcut _ _
      refine ⟨0, le_rfl, ?_⟩
      simp only [needed, hext, Bool.false_eq_true, if_false, hrest]
      by_cases hfour : utf8SeqLength byte = 4
      · have hunits := length_utf16Units_le r
        rw [if_pos hfour]
        omega
      · rw [if_neg hfour, length_utf16Units_of_lt (hvalue (lead_bits hext hfour))]

/-- Decoding ends at the terminator, with at most the units counted. -/
theorem decode_spec (fuel : Nat) (text : List UInt8) (hfuel : text.length < fuel) (hnul : 0 ∉ text) :
    ∃ units, decode fuel (text ++ [0]) = some units ∧
      ∀ expected ≤ 0, units.length ≤ needed expected text := by
  induction fuel generalizing text with
  | zero => exact absurd hfuel (Nat.not_lt_zero _)
  | succ fuel ih =>
    cases text with
    | nil => exact ⟨[], by simp [decode], fun _ _ => Nat.zero_le _⟩
    | cons byte text =>
      have hzero : byte ≠ 0 := fun h => hnul (h ▸ List.mem_cons_self ..)
      obtain ⟨r, rest, hread, hlength, hrestNul, hcounted⟩ := getUtf32FromUtf8_spec hnul
      rw [List.length_cons] at hfuel
      obtain ⟨units, hdecode, hunits⟩ := ih rest (by omega) hrestNul
      refine ⟨utf16Units r ++ units, ?_, fun expected hexpected => ?_⟩
      · rw [List.cons_append, decode, if_neg hzero, hread]
        dsimp only
        rw [hdecode]
        rfl
      · obtain ⟨expected', hexpected', hsum⟩ := hcounted expected hexpected
        have hrest := hunits expected' hexpected'
        rw [List.length_append]
        omega

/-- Surplus extension bytes are decoded to replacement characters. -/
theorem decode_replicate (n : Nat) :
    decode (n + 1) (List.replicate n 0x80 ++ [0]) = some (List.replicate n 0xfffd) := by
  induction n with
  | zero => rfl
  | succ n ih =>
    have hread : getUtf32FromUtf8 (0x80 :: (List.replicate n 0x80 ++ [0])) =
        some (utf16ReplacementChar, List.replicate n 0x80 ++ [0]) := by
      rw [getUtf32FromUtf8, if_pos (by decide)]
    rw [List.replicate_succ, List.cons_append, decode, if_neg (by decide), hread]
    dsimp only
    rw [ih]
    rfl

/-- Decoding reads nothing after the terminator. It writes no more units than are counted exactly when
the string has a counted length: when no run of extension bytes is too long for the counter. -/
theorem strcpy8to16_within_strlen8to16_iff (text : List UInt8) (hnul : 0 ∉ text) :
    ∃ units, strcpy8to16 (text ++ [0]) = some units ∧
      ((∃ len, strlen8to16 (text ++ [0]) = some len ∧ units.length ≤ len) ↔ ShortRuns text) := by
  obtain ⟨units, hdecode, hunits⟩ := decode_spec (text ++ [0]).length text (by simp) hnul
  refine ⟨units, hdecode, ?_⟩
  have hruns : ShortRuns text ↔ CounterFits 0 text := by
    rw [counterFits_iff text 0 (by decide), add_zero]
    rfl
  rw [hruns]
  constructor
  · rintro ⟨len, hlen, -⟩
    exact ((countUnits_eq_some_iff text hnul 0 0 len).mp hlen).1
  · intro hfits
    refine ⟨needed 0 text, (countUnits_eq_some_iff text hnul 0 0 _).mpr ⟨hfits, ?_⟩, hunits 0 le_rfl⟩
    rw [Nat.zero_add]

/-- A sequence of four bytes that is cut short, and a surplus byte. -/
theorem strcpy8to16_within_strlen8to16_malformed :
    ∃ units, strcpy8to16 ([0xf0, 0x80, 0x41, 0x80] ++ [0]) = some units ∧
      ∃ len, strlen8to16 ([0xf0, 0x80, 0x41, 0x80] ++ [0]) = some len ∧ units.length ≤ len := by
  obtain ⟨units, hunits, hiff⟩ :=
    strcpy8to16_within_strlen8to16_iff [0xf0, 0x80, 0x41, 0x80] (by decide)
  exact ⟨units, hunits, hiff.mpr (shortRuns_of_length_le (by decide))⟩

/-- One byte more than the counter can count: the string has no length, and the wrapped counter would
not count the last byte, though a unit is written for it. -/
theorem strlen8to16_underflow :
    strlen8to16 (List.replicate (2 ^ 31 + 1) 0x80 ++ [0]) = none ∧
      strcpy8to16 (List.replicate (2 ^ 31 + 1) 0x80 ++ [0]) =
        some (List.replicate (2 ^ 31 + 1) 0xfffd) ∧
      ¬ (-2147483648 : Int32) - 1 < 0 := by
  have hnul : (0 : UInt8) ∉ List.replicate (2 ^ 31 + 1) 0x80 := fun h =>
    absurd (List.eq_of_mem_replicate h) (by decide)
  have hall : ∀ byte ∈ List.replicate (2 ^ 31 + 1) (0x80 : UInt8), isExtension byte = true :=
    fun byte hbyte => by rw [List.eq_of_mem_replicate hbyte]; decide
  refine ⟨Option.eq_none_iff_forall_ne_some.mpr fun len hlen => ?_, ?_, by decide⟩
  · have hfits := ((countUnits_eq_some_iff _ hnul 0 0 len).mp hlen).1
    have hstart := ((counterFits_iff _ 0 (by decide)).mp hfits).1 _ List.prefix_rfl hall
    rw [List.length_replicate] at hstart
    exact absurd hstart (by decide)
  · rw [strcpy8to16, List.length_append, List.length_replicate, List.length_singleton]
    exact decode_replicate _

end Yoshino.Dpm
