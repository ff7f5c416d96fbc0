import Yoshino.TrimArea.Splitting

/-!
# What a successful read delivers

`tad_read` copies the last bytes of the reply only when the reply is longer than the buffer, and
reports success for every whole reply. A reply that just fills the buffer, or is too short for it,
leaves the buffer as it was, and `ta_get_cust_active` takes its zeros for an empty customization.
-/

namespace Yoshino.TrimArea

/-- The whole reply to the request for the content of a unit. -/
def Tad.dataReply (tad : Tad) (unit size : UInt32) : Option (List UInt8) :=
  (tad.data.send (dataRequest unit size)).bind reply

/-- The bytes are the last ones of the reply, which is long enough. -/
def Tad.Delivered (tad : Tad) (unit size : UInt32) (bytes : List UInt8) : Prop :=
  ∃ payload, tad.dataReply unit size = some payload ∧ size.toNat ≤ payload.length ∧
    bytes = lastBytes payload size

/-- A reply that is received whole is the reply. -/
theorem Tad.dataReply_of_received {tad : Tad} {limits : Nat → Nat} {unit size : UInt32}
    {payload : List UInt8} (h : tad.received limits unit size = some payload) :
    tad.dataReply unit size = some payload := by
  unfold Tad.received at h
  unfold Tad.dataReply
  cases hsend : tad.data.send (dataRequest unit size) with
  | none => rw [hsend] at h; exact absurd h nofun
  | some stream =>
    rw [hsend, Option.bind_some] at h
    split at h
    · exact h
    · exact absurd h nofun

/-- The last bytes of a reply of just the right length are the reply. -/
theorem lastBytes_of_length_eq {payload : List UInt8} {size : UInt32}
    (h : payload.length = size.toNat) : lastBytes payload size = payload := by
  rw [lastBytes, h, Nat.sub_self, List.drop_zero]

/-- What `tad_read` leaves in the buffer is the content exactly when the reply is longer than the
buffer, or just as long and already there. -/
theorem Tad.delivered_iff {tad : Tad} {unit size : UInt32} {payload : List UInt8}
    (h : tad.dataReply unit size = some payload) (buf : List UInt8) :
    tad.Delivered unit size (if size.toNat < payload.length then lastBytes payload size else buf) ↔
      size.toNat < payload.length ∨ payload.length = size.toNat ∧ buf = payload := by
  unfold Tad.Delivered
  rw [h]
  by_cases hlong : size.toNat < payload.length
  · simp only [hlong, true_or, iff_true]
    exact ⟨payload, rfl, Nat.le_of_lt hlong, rfl⟩
  · rw [if_neg hlong, or_iff_right hlong]
    constructor
    · rintro ⟨other, hother, hle, hbuf⟩
      obtain rfl := Option.some.inj hother
      have hlength : payload.length = size.toNat := by omega
      exact ⟨hlength, hbuf.trans (lastBytes_of_length_eq hlength)⟩
    · rintro ⟨hlength, hbuf⟩
      exact ⟨payload, rfl, hlength.ge, hbuf.trans (lastBytes_of_length_eq hlength).symm⟩

/-- The customization after a read that succeeds. -/
theorem Tad.taGetCustActive_of_received {tad : Tad} {cuts : Cuts} {size : UInt32}
    (hsize : tad.tadGetSize cuts.size 0x8A4 0 = .returned size) (hzero : size ≠ 0)
    {payload : List UInt8} (h : tad.received cuts.data 0x8A4 size = some payload) :
    tad.taGetCustActive cuts = some (cString ((if size.toNat < payload.length then
      lastBytes payload size else List.replicate size.toNat 0) ++ [0])) := by
  unfold Tad.taGetCustActive
  rw [hsize]
  dsimp only
  rw [if_neg hzero, Tad.tadRead_eq, h]
  rfl

/-- A terminator behind the bytes does not change the string. -/
theorem cString_terminated (bytes : List UInt8) : cString (bytes ++ [0]) = bytes.takeWhile (· ≠ 0) := by
  unfold cString
  induction bytes with
  | nil => rfl
  | cons c rest ih =>
    by_cases hc : c = 0
    · simp [hc]
    · simpa [hc] using ih

/-- The customization is the content up to its first NUL byte, of a reply that is long enough, exactly
when the reply is longer than the unit, or just as long and empty as a string. -/
theorem Tad.custActive_delivered_iff {tad : Tad} {cuts : Cuts} {size : UInt32}
    (hsize : tad.tadGetSize cuts.size 0x8A4 0 = .returned size) (hzero : size ≠ 0)
    {payload : List UInt8} (h : tad.received cuts.data 0x8A4 size = some payload) :
    (∃ bytes, tad.Delivered 0x8A4 size bytes ∧
        tad.taGetCustActive cuts = some (bytes.takeWhile (· ≠ 0))) ↔
      size.toNat < payload.length ∨ payload.length = size.toNat ∧ payload.head? = some 0 := by
  have hreply := Tad.dataReply_of_received h
  have hpositive : 0 < size.toNat :=
    Nat.pos_iff_ne_zero.mpr fun heq => hzero (UInt32.toNat_inj.mp heq)
  rw [Tad.taGetCustActive_of_received hsize hzero h, cString_terminated]
  by_cases hlong : size.toNat < payload.length
  · rw [if_pos hlong]
    refine iff_of_true ⟨lastBytes payload size, ?_, rfl⟩ (.inl hlong)
    exact ⟨payload, hreply, Nat.le_of_lt hlong, rfl⟩
  · have hempty : (List.replicate size.toNat (0 : UInt8)).takeWhile (· ≠ 0) = [] := by
      cases size.toNat <;> simp [List.replicate_succ]
    rw [if_neg hlong, or_iff_right hlong, hempty]
    constructor
    · rintro ⟨bytes, ⟨other, hother, hle, rfl⟩, hstring⟩
      obtain rfl := Option.some.inj (hreply.symm.trans hother)
      have hlength : payload.length = size.toNat := by omega
      rw [lastBytes_of_length_eq hlength] at hstring
      refine ⟨hlength, ?_⟩
      cases payload with
      | nil => exact absurd hlength (by simpa using hpositive.ne)
      | cons c rest =>
        by_contra hc
        have hc : c ≠ 0 := by simpa using hc
        simp [hc] at hstring
    · rintro ⟨hlength, hhead⟩
      refine ⟨payload, ⟨payload, hreply, hlength.ge, (lastBytes_of_length_eq hlength).symm⟩, ?_⟩
      cases payload with
      | nil => exact absurd hhead nofun
      | cons c rest =>
        obtain rfl : c = 0 := by simpa using hhead
        simp

/-- Whenever `tad_read` succeeds the buffer holds the last bytes of the reply, and
`ta_get_cust_active` returns those bytes up to the first NUL byte, exactly when every reply that is
received whole is longer than the buffer, or just as long and already there, for
`ta_get_cust_active` as an empty string. -/
theorem Tad.read_delivers_iff (tad : Tad) (limits : Nat → Nat) (unit size : UInt32)
    (buf : List UInt8) (cuts : Cuts) :
    ((∀ after, tad.tadRead limits unit buf size = some after → tad.Delivered unit size after) ∧
      ∀ custSize after, tad.tadGetSize cuts.size 0x8A4 0 = .returned custSize → custSize ≠ 0 →
        tad.tadRead cuts.data 0x8A4 (List.replicate custSize.toNat 0) custSize = some after →
          ∃ bytes, tad.Delivered 0x8A4 custSize bytes ∧
            tad.taGetCustActive cuts = some (bytes.takeWhile (· ≠ 0))) ↔
      (∀ payload, tad.received limits unit size = some payload →
        size.toNat < payload.length ∨ payload.length = size.toNat ∧ buf = payload) ∧
      ∀ custSize payload, tad.tadGetSize cuts.size 0x8A4 0 = .returned custSize → custSize ≠ 0 →
        tad.received cuts.data 0x8A4 custSize = some payload →
          custSize.toNat < payload.length ∨
            payload.length = custSize.toNat ∧ payload.head? = some 0 := by
  refine and_congr ?_ ?_
  · rw [Tad.tadRead_eq]
    cases hreceived : tad.received limits unit size with
    | none => simp
    | some payload =>
      simp only [Option.map_some, Option.some.injEq, forall_eq']
      exact Tad.delivered_iff (Tad.dataReply_of_received hreceived) buf
  · refine forall_congr' fun custSize => ?_
    constructor
    · intro h payload hsize hzero hreceived
      have hread := tad.tadRead_eq cuts.data 0x8A4 (List.replicate custSize.toNat 0) custSize
      rw [hreceived, Option.map_some] at hread
      exact (Tad.custActive_delivered_iff hsize hzero hreceived).mp (h _ hsize hzero hread)
    · intro h after hsize hzero hread
      rw [Tad.tadRead_eq, Option.map_eq_some_iff] at hread
      obtain ⟨payload, hreceived, -⟩ := hread
      exact (Tad.custActive_delivered_iff hsize hzero hreceived).mpr (h payload hsize hzero hreceived)

/-- A reply of just the announced size is reported as success, and leaves the buffer and the
customization empty. -/
theorem Tad.read_of_equal_length :
    let tad : Tad :=
      { size := ⟨true, fun _ => true, fun _ => [0, 0, 0, 4, 0, 0, 0, 1]⟩
        data := ⟨true, fun _ => true, fun _ => [0, 0, 0, 1, 65]⟩
        beyond := fun _ => 0 }
    tad.dataReply 0x8A4 1 = some [65] ∧ tad.tadRead (fun _ => 8) 0x8A4 [0] 1 = some [0] ∧
      tad.taGetCustActive ⟨fun _ => 8, fun _ => 8⟩ = some [] := by
  decide +kernel

end Yoshino.TrimArea
