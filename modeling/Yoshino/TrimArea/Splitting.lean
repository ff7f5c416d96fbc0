import Yoshino.TrimArea.Client

/-!
# The answer of the daemon in pieces

The stream of a connection is meant to be a length and a payload, however it is cut. The client
takes one `read` for each of them, so it sees the whole reply exactly when neither is cut, and takes
a cut reply for a failure.
-/

namespace Yoshino.TrimArea

/-- The length a stream begins with. -/
def announced (stream : List UInt8) : Nat :=
  (getU32 (memory stream fun _ => 0) 0).toNat

/-- The payload of a complete reply. -/
def reply (stream : List UInt8) : Option (List UInt8) :=
  if 4 + announced stream ≤ stream.length then some ((stream.drop 4).take (announced stream))
  else none

/-- Neither the length nor the payload of a stream is cut. -/
def Uncut (stream : List UInt8) (limits : Nat → Nat) : Prop :=
  4 ≤ limits 0 ∧ announced stream ≤ max 1 (limits 1)

instance (stream : List UInt8) (limits : Nat → Nat) : Decidable (Uncut stream limits) :=
  inferInstanceAs (Decidable (_ ∧ _))

/-- The length does not depend on what follows it. -/
theorem getU32_take (stream : List UInt8) (beyond : Nat → UInt8) (h : 4 ≤ stream.length) :
    (getU32 (memory (stream.take 4) beyond) 0).toNat = announced stream := by
  have hbyte (i : Nat) (hi : i < 4) :
      memory (stream.take 4) beyond i = memory stream (fun _ => 0) i := by
    have hlength : i < stream.length := by omega
    simp [memory, List.getD, hi, hlength]
  unfold announced getU32
  rw [hbyte 0 (by decide), hbyte 1 (by decide), hbyte 2 (by decide), hbyte 3 (by decide)]

/-- The client sees the reply exactly when it is not cut. -/
theorem receive_eq (stream : List UInt8) (limits : Nat → Nat) (beyond : Nat → UInt8)
    [Decidable (Uncut stream limits)] :
    receive stream limits beyond = if Uncut stream limits then reply stream else none := by
  simp only [receive, read, List.splitAt_eq, List.length_take, List.length_drop]
  by_cases hhead : min (min 4 (max 1 (limits 0))) stream.length = 4
  · have hlimit : 4 ≤ limits 0 := by omega
    have hcount : min 4 (max 1 (limits 0)) = 4 := by omega
    have hlen := getU32_take stream beyond (by omega)
    rw [if_neg (not_not_intro hhead), hcount]
    generalize getU32 (memory (stream.take 4) beyond) 0 = len at hlen
    by_cases hpositive : 0 < len
    · rw [if_pos hpositive, hlen]
      by_cases hbody : min (min (announced stream) (max 1 (limits 1))) (stream.length - 4) =
          announced stream
      · rw [if_neg (not_not_intro hbody), if_pos ⟨hlimit, by omega⟩, reply, if_pos (by omega),
          Nat.min_eq_left (by omega)]
      · rw [if_pos hbody]
        split
        next huncut =>
          obtain ⟨-, hpayload⟩ := huncut
          rw [reply, if_neg (by omega)]
        · rfl
    · have hzero : announced stream = 0 := by
        rw [← hlen]
        simpa [UInt32.lt_iff_toNat_lt] using hpositive
      rw [if_neg hpositive, if_pos ⟨hlimit, by omega⟩, reply, if_pos (by omega), hzero]
      rfl
  · rw [if_pos hhead]
    split
    next huncut =>
      obtain ⟨hlimit, -⟩ := huncut
      rw [reply, if_neg (by omega)]
    · rfl

/-- The stream that answers the request for the size. -/
def Tad.sizeStream (tad : Tad) : Option (List UInt8) :=
  tad.size.send (sizeRequest 0x8A4)

/-- The stream that answers the request for the content. -/
def Tad.dataStream (tad : Tad) (size : UInt32) : Option (List UInt8) :=
  tad.data.send (dataRequest 0x8A4 size)

/-- The size the first reply gives as a whole. -/
def Tad.wholeSize (tad : Tad) : Result UInt32 :=
  match tad.sizeStream.bind reply with
  | none => .failed
  | some [] => .returned 0
  | some payload =>
    match sumWords payload tad.beyond with
    | none => .hangs
    | some size => .returned size

/-- No reply that is read is cut. -/
def Tad.Uncut (tad : Tad) (cuts : Cuts) : Prop :=
  (∀ stream ∈ tad.sizeStream, TrimArea.Uncut stream cuts.size) ∧
    ∀ size, tad.wholeSize = .returned size → size ≠ 0 →
      ∀ stream ∈ tad.dataStream size, TrimArea.Uncut stream cuts.data

/-- The replies as a whole say something: the payload of the second is longer than the size, and its
last bytes do not begin with a terminator; or the client never gets that far. -/
def Tad.Says (tad : Tad) : Prop :=
  match tad.wholeSize with
  | .failed => False
  | .hangs => True
  | .returned size => size ≠ 0 ∧ ∃ payload, (tad.dataStream size).bind reply = some payload ∧
    size.toNat < payload.length ∧ payload[payload.length - size.toNat]? ≠ some 0

/-- `tad_get_size` gets the size from a reply that is not cut. -/
theorem Tad.tadGetSize_of_uncut {tad : Tad} {limits : Nat → Nat}
    (h : ∀ stream ∈ tad.sizeStream, TrimArea.Uncut stream limits) :
    tad.tadGetSize limits 0x8A4 0 = tad.wholeSize := by
  classical
  unfold Tad.tadGetSize Tad.wholeSize
  rw [← Tad.sizeStream]
  cases hstream : tad.sizeStream with
  | none => rfl
  | some stream =>
    have hreceive : receive stream limits tad.beyond = reply stream := by
      rw [receive_eq, if_pos (h stream hstream)]
    dsimp only
    exact hreceive ▸ rfl

/-- `tad_get_size` fails on a reply that is cut. -/
theorem Tad.tadGetSize_of_cut {tad : Tad} {limits : Nat → Nat} {stream : List UInt8}
    (hstream : stream ∈ tad.sizeStream) (h : ¬ TrimArea.Uncut stream limits) :
    tad.tadGetSize limits 0x8A4 0 = .failed := by
  classical
  unfold Tad.tadGetSize
  rw [← Tad.sizeStream, Option.mem_def.mp hstream]
  simp only [receive_eq, if_neg h]

/-- The last bytes of a reply. -/
def lastBytes (payload : List UInt8) (size : UInt32) : List UInt8 :=
  payload.drop (payload.length - size.toNat)

/-- The reply that is received whole, if there is one. -/
def Tad.received (tad : Tad) (limits : Nat → Nat) (unit size : UInt32) : Option (List UInt8) :=
  (tad.data.send (dataRequest unit size)).bind fun stream =>
    if TrimArea.Uncut stream limits then reply stream else none

/-- `tad_read` succeeds exactly with a reply that is received whole. -/
theorem Tad.tadRead_eq (tad : Tad) (limits : Nat → Nat) (unit : UInt32) (buf : List UInt8)
    (size : UInt32) :
    tad.tadRead limits unit buf size = (tad.received limits unit size).map fun payload =>
      if size.toNat < payload.length then lastBytes payload size else buf := by
  unfold Tad.tadRead Tad.received
  cases tad.data.send (dataRequest unit size) with
  | none => rfl
  | some stream =>
    dsimp only
    rw [receive_eq, Option.bind_some]
    cases (if TrimArea.Uncut stream limits then reply stream else none) with
    | none => rfl
    | some payload => exact (apply_ite some _ _ _).symm

/-- `tad_read` gets the content from a reply that is not cut. -/
theorem Tad.tadRead_of_uncut {tad : Tad} {limits : Nat → Nat} {size : UInt32}
    (h : ∀ stream ∈ tad.dataStream size, TrimArea.Uncut stream limits) (buf : List UInt8) :
    tad.tadRead limits 0x8A4 buf size = ((tad.dataStream size).bind reply).map fun payload =>
      if payload.length > size.toNat then payload.drop (payload.length - size.toNat) else buf := by
  have hreceived : tad.received limits 0x8A4 size = (tad.dataStream size).bind reply := by
    unfold Tad.received
    rw [← Tad.dataStream]
    cases hstream : tad.dataStream size with
    | none => rfl
    | some stream => rw [Option.bind_some, Option.bind_some, if_pos (h stream hstream)]
  rw [Tad.tadRead_eq, hreceived]
  rfl

/-- `tad_read` fails on a reply that is cut. -/
theorem Tad.tadRead_of_cut {tad : Tad} {limits : Nat → Nat} {size : UInt32} {stream : List UInt8}
    (hstream : stream ∈ tad.dataStream size) (h : ¬ TrimArea.Uncut stream limits)
    (buf : List UInt8) : tad.tadRead limits 0x8A4 buf size = none := by
  rw [Tad.tadRead_eq, Tad.received, ← Tad.dataStream, Option.mem_def.mp hstream, Option.bind_some,
    if_neg h]
  rfl

/-- A cut reply is taken for no customization. -/
theorem Tad.taGetCustActive_of_cut {tad : Tad} {cuts : Cuts} (h : ¬ tad.Uncut cuts) :
    tad.taGetCustActive cuts = some [] := by
  unfold Tad.taGetCustActive
  by_cases hsize : ∀ stream ∈ tad.sizeStream, TrimArea.Uncut stream cuts.size
  · obtain ⟨size, hwhole, hpositive, stream, hstream, hcut⟩ :
        ∃ size, tad.wholeSize = .returned size ∧ size ≠ 0 ∧
          ∃ stream ∈ tad.dataStream size, ¬ TrimArea.Uncut stream cuts.data := by
      by_contra hnone
      push Not at hnone
      exact h ⟨hsize, hnone⟩
    simp only [Tad.tadGetSize_of_uncut hsize, hwhole, if_neg hpositive,
      Tad.tadRead_of_cut hstream hcut]
  · push Not at hsize
    obtain ⟨stream, hstream, hcut⟩ := hsize
    simp only [Tad.tadGetSize_of_cut hstream hcut]

/-- Whole replies are all the same to the client. -/
theorem Tad.taGetCustActive_eq_of_uncut {tad : Tad} {first second : Cuts} (hfirst : tad.Uncut first)
    (hsecond : tad.Uncut second) : tad.taGetCustActive first = tad.taGetCustActive second := by
  unfold Tad.taGetCustActive
  rw [Tad.tadGetSize_of_uncut hfirst.1, Tad.tadGetSize_of_uncut hsecond.1]
  cases hsize : tad.wholeSize with
  | failed | hangs => rfl
  | returned size =>
    by_cases hzero : size = 0
    · simp only [if_pos hzero]
    · simp only [if_neg hzero, Tad.tadRead_of_uncut (hfirst.2 size hsize hzero),
        Tad.tadRead_of_uncut (hsecond.2 size hsize hzero)]

/-- A string is empty when its first character is the terminator. -/
theorem cString_eq_nil_iff (str : List UInt8) : cString (str ++ [0]) = [] ↔ str.head?.getD 0 = 0 := by
  cases str with
  | nil => simp [cString]
  | cons first rest =>
    by_cases h : first = 0 <;> simp [cString, h]

/-- Whole replies give the empty string exactly when they say nothing. -/
theorem Tad.taGetCustActive_eq_nil_iff {tad : Tad} {cuts : Cuts} (h : tad.Uncut cuts) :
    tad.taGetCustActive cuts = some [] ↔ ¬ tad.Says := by
  unfold Tad.taGetCustActive Tad.Says
  rw [Tad.tadGetSize_of_uncut h.1]
  cases hsize : tad.wholeSize with
  | failed => simp
  | hangs => simp
  | returned size =>
    by_cases hzero : size = 0
    · simp [hzero]
    · simp only [if_neg hzero, Tad.tadRead_of_uncut (h.2 size hsize hzero)]
      cases hreply : (tad.dataStream size).bind reply with
      | none => simp
      | some payload =>
        have hpositive : 0 < size.toNat := by
          rw [Nat.pos_iff_ne_zero]
          exact fun h => hzero (UInt32.toNat_inj.mp h)
        simp only [Option.map_some, Option.some.injEq, cString_eq_nil_iff]
        by_cases hlong : size.toNat < payload.length
        · have hindex : payload.length - size.toNat < payload.length := by omega
          rw [if_pos hlong, List.head?_drop]
          simp [hzero, hlong, hindex]
        · rw [if_neg hlong]
          simp [List.head?_replicate, hlong, hpositive.ne']

/-- For every two ways to cut the streams of the daemon the client returns the same string exactly
when both leave the replies whole or both cut one, or when the replies say nothing. -/
theorem Tad.cust_active_same_iff (tad : Tad) (first second : Cuts) :
    tad.taGetCustActive first = tad.taGetCustActive second ↔
      (tad.Uncut first ↔ tad.Uncut second) ∨ ¬ tad.Says := by
  by_cases hfirst : tad.Uncut first
  · by_cases hsecond : tad.Uncut second
    · exact iff_of_true (Tad.taGetCustActive_eq_of_uncut hfirst hsecond)
        (.inl (iff_of_true hfirst hsecond))
    · rw [Tad.taGetCustActive_of_cut hsecond, Tad.taGetCustActive_eq_nil_iff hfirst]
      simp [hfirst, hsecond]
  · rw [Tad.taGetCustActive_of_cut hfirst]
    by_cases hsecond : tad.Uncut second
    · rw [eq_comm, Tad.taGetCustActive_eq_nil_iff hsecond]
      simp [hfirst, hsecond]
    · exact iff_of_true (Tad.taGetCustActive_of_cut hsecond).symm
        (.inl (iff_of_false hfirst hsecond))

/-- The daemon announces a unit of one byte and sends the bytes 0 and 65; a first `read` that stops
after three of the four bytes of the length loses the customization. -/
theorem Tad.cust_active_lost_by_short_read :
    let tad : Tad :=
      { size := ⟨true, fun _ => true, fun _ => [0, 0, 0, 4, 0, 0, 0, 1]⟩
        data := ⟨true, fun _ => true, fun _ => [0, 0, 0, 2, 0, 65]⟩
        beyond := fun _ => 0 }
    tad.taGetCustActive ⟨fun _ => 8, fun _ => 8⟩ = some [65] ∧
      tad.taGetCustActive ⟨fun n => if n = 0 then 3 else 8, fun _ => 8⟩ = some [] := by
  decide +kernel

end Yoshino.TrimArea
