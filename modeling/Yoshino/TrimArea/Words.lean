import Yoshino.TrimArea.Splitting

/-!
# The words `tad_get_size` adds up

The summing loop tests only where a word begins, and its first word is read without a test. It reads
inside the payload, ends, and stores the sum of the words exactly when the payload consists of whole
words.
-/

namespace Yoshino.TrimArea

/-- The big-endian words of a payload. -/
def words : List UInt8 → List Nat
  | a :: b :: c :: d :: rest =>
    (a.toNat * 2 ^ 24 + b.toNat * 2 ^ 16 + c.toNat * 2 ^ 8 + d.toNat) :: words rest
  | _ => []

/-- The sum of the words modulo `2 ^ 32`. -/
def wordSum (payload : List UInt8) : UInt32 :=
  UInt32.ofNat (words payload).sum

/-- The offsets of the words the loop reads in its first iterations. -/
def loopReads (len : UInt32) : Nat → UInt32 → List UInt32
  | 0, _ => []
  | n + 1, offset => if offset < len then offset :: loopReads len n (offset + 4) else []

/-- The offsets of all `get_u32` calls on the payload, up to a number of iterations of the loop. -/
def sumReads (payload : List UInt8) (iterations : Nat) : List UInt32 :=
  0 :: loopReads (UInt32.ofNat payload.length) iterations 4

/-- A byte moved to its place in a word. -/
theorem toNat_shiftLeft_byte (x : UInt8) {n : Nat} (hn : n ≤ 24) :
    (x.toUInt32 <<< UInt32.ofNat n).toNat = x.toNat <<< n := by
  have hx := x.toNat_lt
  have hpow : 2 ^ n ≤ 2 ^ 24 := Nat.pow_le_pow_right (by decide) hn
  have hbound : x.toNat * 2 ^ n < 2 ^ 32 := by
    calc x.toNat * 2 ^ n < 2 ^ 8 * 2 ^ n := Nat.mul_lt_mul_of_pos_right hx (Nat.two_pow_pos n)
      _ ≤ 2 ^ 8 * 2 ^ 24 := Nat.mul_le_mul_left _ hpow
      _ = 2 ^ 32 := by decide
  have hplace : (UInt32.ofNat n).toNat % 32 = n := by
    rw [UInt32.toNat_ofNat']
    omega
  rw [UInt32.toNat_shiftLeft, UInt8.toNat_toUInt32, hplace, Nat.shiftLeft_eq,
    Nat.mod_eq_of_lt hbound]

/-- `get_u32` computes the word of its four bytes. -/
theorem getU32_bytes (p : Nat → UInt8) (offset : Nat) :
    getU32 p offset = UInt32.ofNat ((p offset).toNat * 2 ^ 24 + (p (offset + 1)).toNat * 2 ^ 16 +
      (p (offset + 2)).toNat * 2 ^ 8 + (p (offset + 3)).toNat) := by
  unfold getU32
  generalize p offset = a
  generalize p (offset + 1) = b
  generalize p (offset + 2) = c
  generalize p (offset + 3) = d
  have ha := a.toNat_lt
  have hb := b.toNat_lt
  have hc := c.toNat_lt
  have hd := d.toNat_lt
  -- each `|||` meets zeros, from the top down
  have hab : a.toNat <<< 24 ||| b.toNat <<< 16 = (a.toNat * 2 ^ 8 + b.toNat) <<< 16 := by
    rw [← Nat.shiftLeft_add_eq_or_of_lt (by rw [Nat.shiftLeft_eq]; omega)]
    simp only [Nat.shiftLeft_eq]
    omega
  have habc : (a.toNat * 2 ^ 8 + b.toNat) <<< 16 ||| c.toNat <<< 8 =
      ((a.toNat * 2 ^ 8 + b.toNat) * 2 ^ 8 + c.toNat) <<< 8 := by
    rw [← Nat.shiftLeft_add_eq_or_of_lt (by rw [Nat.shiftLeft_eq]; omega)]
    simp only [Nat.shiftLeft_eq]
    omega
  apply UInt32.toNat_inj.mp
  have h24 := toNat_shiftLeft_byte a (n := 24) (by decide)
  have h16 := toNat_shiftLeft_byte b (n := 16) (by decide)
  have h8 := toNat_shiftLeft_byte c (n := 8) (by decide)
  rw [UInt32.toNat_or, UInt32.toNat_or, UInt32.toNat_or, UInt8.toNat_toUInt32, UInt32.toNat_ofNat']
  simp only [UInt32.reduceOfNat] at h24 h16 h8
  rw [h24, h16, h8, hab, habc, ← Nat.shiftLeft_add_eq_or_of_lt (by omega), Nat.shiftLeft_eq]
  omega

/-- Between two multiples of four the offset does not wrap. -/
theorem toNat_add_four {offset len : UInt32} (hoffset : 4 ∣ offset.toNat) (hlen : 4 ∣ len.toNat)
    (h : offset < len) : (offset + 4).toNat = offset.toNat + 4 := by
  have hlt := UInt32.lt_iff_toNat_lt.mp h
  have hsize := len.toNat_lt
  have hadd : (offset + 4).toNat = (offset.toNat + 4) % 2 ^ 32 := rfl
  omega

/-- Over whole words the loop reads inside the payload. -/
theorem loopReads_inside {len : UInt32} (hlen : 4 ∣ len.toNat) {n : Nat} {offset : UInt32}
    (hoffset : 4 ∣ offset.toNat) : ∀ read ∈ loopReads len n offset, read.toNat + 4 ≤ len.toNat := by
  induction n generalizing offset with
  | zero => exact fun _ hread => absurd hread List.not_mem_nil
  | succ n ih =>
    intro read hread
    rw [loopReads] at hread
    split at hread
    next hlt =>
      have hadd := toNat_add_four hoffset hlen hlt
      rcases List.mem_cons.mp hread with rfl | hread
      · have := UInt32.lt_iff_toNat_lt.mp hlt
        omega
      · exact ih (by omega) read hread
    · exact absurd hread List.not_mem_nil

/-- The loop reads every word that begins before the end. -/
theorem mem_loopReads {len : UInt32} {k n : Nat} {offset : UInt32} (hn : k < n)
    (h : offset.toNat + 4 * k < len.toNat) :
    UInt32.ofNat (offset.toNat + 4 * k) ∈ loopReads len n offset := by
  have hsize := len.toNat_lt
  induction k generalizing n offset with
  | zero =>
    obtain ⟨n, rfl⟩ := Nat.exists_eq_succ_of_ne_zero hn.ne'
    rw [loopReads, if_pos (UInt32.lt_iff_toNat_lt.mpr (by omega)), Nat.mul_zero, Nat.add_zero,
      UInt32.ofNat_toNat]
    exact List.mem_cons_self
  | succ k ih =>
    obtain ⟨n, rfl⟩ := Nat.exists_eq_succ_of_ne_zero (Nat.ne_zero_of_lt hn)
    have hadd : (offset + 4).toNat = (offset.toNat + 4) % 2 ^ 32 := rfl
    have hnext : (offset + 4).toNat + 4 * k = offset.toNat + 4 * (k + 1) := by omega
    rw [loopReads, if_pos (UInt32.lt_iff_toNat_lt.mpr (by omega)), ← hnext]
    exact List.mem_cons_of_mem _ (ih (by omega) (by omega))

/-- A payload of whole words is empty or begins with one. -/
theorem eq_nil_or_word {payload : List UInt8} (h : 4 ∣ payload.length) :
    payload = [] ∨ ∃ a b c d rest, payload = a :: b :: c :: d :: rest := by
  match payload, h with
  | [], _ => exact .inl rfl
  | [_], h | [_, _], h | [_, _, _], h => simp at h
  | a :: b :: c :: d :: rest, _ => exact .inr ⟨a, b, c, d, rest, rfl⟩

/-- The word behind the front of a payload. -/
theorem getU32_append (front rest : List UInt8) (a b c d : UInt8) (beyond : Nat → UInt8) :
    getU32 (memory (front ++ a :: b :: c :: d :: rest) beyond) front.length =
      UInt32.ofNat (a.toNat * 2 ^ 24 + b.toNat * 2 ^ 16 + c.toNat * 2 ^ 8 + d.toNat) := by
  rw [getU32_bytes]
  simp [memory, List.getD]

/-- From the end of a front of whole words the loop adds the words of the rest and ends. -/
theorem sumLoop_append {n : Nat} {front rest : List UInt8} (hfront : 4 ∣ front.length)
    (hrest : 4 ∣ rest.length) (hlength : (front ++ rest).length < 2 ^ 32)
    (hn : rest.length < 4 * n) (beyond : Nat → UInt8) (x : UInt32) :
    sumLoop (fun offset => getU32 (memory (front ++ rest) beyond) offset.toNat)
      (UInt32.ofNat (front ++ rest).length) n (UInt32.ofNat front.length) x =
        some (x + UInt32.ofNat (words rest).sum) := by
  rw [List.length_append] at hlength
  induction n generalizing front rest x with
  | zero => omega
  | succ n ih =>
    have hoffset : (UInt32.ofNat front.length).toNat = front.length :=
      UInt32.toNat_ofNat_of_lt' (show _ < 2 ^ 32 by omega)
    have hend : (UInt32.ofNat (front ++ rest).length).toNat = front.length + rest.length := by
      rw [List.length_append]
      exact UInt32.toNat_ofNat_of_lt' (show _ < 2 ^ 32 by omega)
    rw [sumLoop]
    obtain rfl | ⟨a, b, c, d, rest, rfl⟩ := eq_nil_or_word hrest
    · rw [if_neg (by rw [UInt32.lt_iff_toNat_lt, hoffset, hend]; simp)]
      simp [words]
    · rw [if_pos (by rw [UInt32.lt_iff_toNat_lt, hoffset, hend]; simp), hoffset, getU32_append]
      -- the word moves from the rest to the front
      have hmove : front ++ a :: b :: c :: d :: rest = (front ++ [a, b, c, d]) ++ rest := by simp
      have hnext : UInt32.ofNat front.length + 4 = UInt32.ofNat (front ++ [a, b, c, d]).length := by
        rw [List.length_append, UInt32.ofNat_add]
        rfl
      simp only [List.length_cons] at hrest hlength hn
      rw [hmove, hnext, ih (by simpa using hfront) (by omega) (by simp; omega) (by omega), words,
        List.sum_cons, UInt32.ofNat_add _ (words rest).sum, UInt32.add_assoc]

/-- A payload that is received is shorter than `2 ^ 32` bytes. -/
theorem length_of_receive {stream payload : List UInt8} {limits : Nat → Nat} {beyond : Nat → UInt8}
    (h : receive stream limits beyond = some payload) : payload.length < 2 ^ 32 := by
  classical
  rw [receive_eq] at h
  split at h
  · unfold reply at h
    split at h
    · obtain rfl := Option.some.inj h
      have hlen := (getU32 (memory stream fun _ => 0) 0).toNat_lt
      rw [← announced] at hlen
      rw [List.length_take]
      omega
    · exact absurd h (by simp)
  · exact absurd h (by simp)

/-- The sum of a payload of whole words. -/
theorem sumWords_of_dvd {payload : List UInt8} (hlength : payload.length < 2 ^ 32)
    (hnil : payload ≠ []) (h : 4 ∣ payload.length) (beyond : Nat → UInt8) :
    sumWords payload beyond = some (wordSum payload) := by
  obtain rfl | ⟨a, b, c, d, rest, rfl⟩ := eq_nil_or_word h
  · exact absurd rfl hnil
  · have hfirst := getU32_append [] rest a b c d beyond
    have hfour : 4 ∣ [a, b, c, d].length := by simp
    have hrest : 4 ∣ rest.length := by simpa using h
    have hloop := sumLoop_append (n := 2 ^ 30) hfour hrest hlength
      (by simp at hlength; omega) beyond
    unfold sumWords wordSum
    rw [words, List.sum_cons, UInt32.ofNat_add _ (words rest).sum, ← hfirst]
    exact hloop _

/-- The last word that begins in a payload of no whole number of words is read. -/
theorem mem_sumReads {payload : List UInt8} (hlength : payload.length < 2 ^ 32)
    (h : ¬ 4 ∣ payload.length) :
    UInt32.ofNat (4 * (payload.length / 4)) ∈ sumReads payload (payload.length / 4) := by
  unfold sumReads
  obtain hzero | hpos := Nat.eq_zero_or_pos (payload.length / 4)
  · rw [hzero]
    exact List.mem_cons_self
  · have hfour : (4 : UInt32).toNat = 4 := rfl
    have hlen : (UInt32.ofNat payload.length).toNat = payload.length :=
      UInt32.toNat_ofNat_of_lt' hlength
    have hlast : (4 : UInt32).toNat + 4 * (payload.length / 4 - 1) = 4 * (payload.length / 4) := by
      omega
    rw [← hlast]
    exact List.mem_cons_of_mem _ (mem_loopReads (by omega) (by omega))

/-- For every payload that is received, `tad_get_size` returns with the sum of its words and reads
only inside it exactly when the payload consists of whole words. -/
theorem Tad.get_size_safe_iff {tad : Tad} {limits : Nat → Nat} {unit : UInt32}
    {stream payload : List UInt8} (hsend : tad.size.send (sizeRequest unit) = some stream)
    (hreceive : receive stream limits tad.beyond = some payload) (hnil : payload ≠ [])
    (size : UInt32) :
    (tad.tadGetSize limits unit size = .returned (wordSum payload) ∧
        ∀ n, ∀ read ∈ sumReads payload n, read.toNat + 4 ≤ payload.length) ↔
      4 ∣ payload.length := by
  have hlength := length_of_receive hreceive
  have hlen : (UInt32.ofNat payload.length).toNat = payload.length :=
    UInt32.toNat_ofNat_of_lt' hlength
  constructor
  · rintro ⟨-, hinside⟩
    by_contra h
    have hread := hinside _ _ (mem_sumReads hlength h)
    rw [UInt32.toNat_ofNat_of_lt' (show _ < 2 ^ 32 by omega)] at hread
    omega
  · intro h
    refine ⟨?_, fun n read hread => ?_⟩
    · unfold Tad.tadGetSize
      simp only [hsend, hreceive, sumWords_of_dvd hlength hnil h]
    · rcases List.mem_cons.mp hread with rfl | hread
      · have hpos := List.length_pos_iff.mpr hnil
        have hzero : (0 : UInt32).toNat = 0 := rfl
        omega
      · have hfour : 4 ∣ (4 : UInt32).toNat := by decide
        have hread := loopReads_inside (hlen.symm ▸ h) hfour read hread
        omega

/-- A payload of two words is summed. -/
theorem Tad.get_size_of_two_words :
    let tad : Tad :=
      { size := ⟨true, fun _ => true, fun _ => [0, 0, 0, 8, 0, 0, 1, 0, 0, 0, 0, 2]⟩
        data := ⟨true, fun _ => true, fun _ => []⟩
        beyond := fun _ => 0 }
    tad.tadGetSize (fun _ => 12) 0x8A4 0 = .returned 258 := by
  intro tad
  have hsend : tad.size.send (sizeRequest 0x8A4) = some [0, 0, 0, 8, 0, 0, 1, 0, 0, 0, 0, 2] := rfl
  have hreceive : receive [0, 0, 0, 8, 0, 0, 1, 0, 0, 0, 0, 2] (fun _ => 12) tad.beyond =
      some [0, 0, 1, 0, 0, 0, 0, 2] := by decide
  exact ((Tad.get_size_safe_iff hsend hreceive (List.cons_ne_nil _ _) 0).mpr (by decide)).1

/-- For a payload of five bytes the second word is read three bytes too far, and what happens to be
there is added. -/
theorem Tad.get_size_reads_behind :
    let tad (behind : UInt8) : Tad :=
      { size := ⟨true, fun _ => true, fun _ => [0, 0, 0, 5, 0, 0, 0, 1, 0]⟩
        data := ⟨true, fun _ => true, fun _ => []⟩
        beyond := fun _ => behind }
    4 ∈ sumReads [0, 0, 0, 1, 0] 1 ∧ (tad 0).tadGetSize (fun _ => 8) 0x8A4 0 = .returned 1 ∧
      (tad 1).tadGetSize (fun _ => 8) 0x8A4 0 = .returned 65794 := by
  decide +kernel

end Yoshino.TrimArea
