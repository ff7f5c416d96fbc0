import Mathlib.Algebra.Order.Ring.Int
import Mathlib.Data.List.Basic

/-!
# The client of the trim-area daemon

`ta_get_cust_active` of init/ta.cpp asks the daemon for the size of unit 0x8A4 on one connection and
for its content on a second one. Each answer is a length and a payload of that length on a stream
socket, so every `read` returns some part of what is left of the stream: at least one byte before its
end, at most what was asked for.
-/

namespace Yoshino.TrimArea

/-- `get_u32` at an offset of a buffer. -/
def getU32 (p : Nat → UInt8) (offset : Nat) : UInt32 :=
  (p offset).toUInt32 <<< 24 ||| (p (offset + 1)).toUInt32 <<< 16 |||
    (p (offset + 2)).toUInt32 <<< 8 ||| (p (offset + 3)).toUInt32

/-- `put_u32`. -/
def putU32 (v : UInt32) : List UInt8 :=
  [(v >>> 24).toUInt8, (v >>> 16).toUInt8, (v >>> 8).toUInt8, v.toUInt8]

/-- One connection to the daemon: whether it opens, which writes take all their bytes, and the stream
that answers a request. -/
structure Connection where
  opens : Bool
  writes : Nat → Bool
  answer : List UInt8 → List UInt8

/-- The two connections, and the memory behind the end of a buffer. -/
structure Tad where
  size : Connection
  data : Connection
  beyond : Nat → UInt8

/-- How much each `read` of a connection returns at most. -/
structure Cuts where
  size : Nat → Nat
  data : Nat → Nat

/-- Connect and write a request piece by piece. -/
def Connection.send (c : Connection) (request : List (List UInt8)) : Option (List UInt8) :=
  if c.opens && (List.range request.length).all c.writes then some (c.answer request.flatten)
  else none

/-- `read`: the bytes returned and the rest of the stream. -/
def read (stream : List UInt8) (limit count : Nat) : List UInt8 × List UInt8 :=
  stream.splitAt (min count (max 1 limit))

/-- The bytes of a buffer, and what is behind them. -/
def memory (buf : List UInt8) (beyond : Nat → UInt8) (i : Nat) : UInt8 :=
  buf.getD i (beyond i)

/-- Both requests read a length and, unless it is zero, a payload of that length, with one `read`
each. -/
def receive (stream : List UInt8) (limits : Nat → Nat) (beyond : Nat → UInt8) :
    Option (List UInt8) :=
  let (sizeBuf, rest) := read stream (limits 0) 4
  if sizeBuf.length ≠ 4 then none
  else
    let len := getU32 (memory sizeBuf beyond) 0
    if len > 0 then
      let (buf, _) := read rest (limits 1) len.toNat
      if buf.length ≠ len.toNat then none else some buf
    else some []

/-- The summing loop of `tad_get_size`, for a number of iterations. -/
def sumLoop (word : UInt32 → UInt32) (len : UInt32) : Nat → UInt32 → UInt32 → Option UInt32
  | 0, _, _ => none
  | fuel + 1, offset, x =>
    if offset < len then sumLoop word len fuel (offset + 4) (x + word offset) else some x

/-- The loop is still running exactly when each offset so far lies before the end. -/
theorem sumLoop_eq_none_iff (word : UInt32 → UInt32) (len : UInt32) (fuel : Nat)
    (offset x : UInt32) :
    sumLoop word len fuel offset x = none ↔ ∀ n < fuel, offset + 4 * UInt32.ofNat n < len := by
  induction fuel generalizing offset x with
  | zero => simp [sumLoop]
  | succ fuel ih =>
    rw [sumLoop, Nat.forall_lt_succ_left]
    have hshift (n : Nat) : offset + 4 * UInt32.ofNat (n + 1) = offset + 4 + 4 * UInt32.ofNat n := by
      rw [UInt32.ofNat_add, UInt32.mul_add, UInt32.add_comm (4 * UInt32.ofNat n), UInt32.add_assoc]
      rfl
    simp only [hshift, ← ih (offset + 4) (x + word offset)]
    by_cases h : offset < len <;> simp [h]

/-- A loop that has not ended when its offset has taken all its values never ends. -/
theorem sumLoop_never_ends (word : UInt32 → UInt32) (len x : UInt32)
    (h : sumLoop word len (2 ^ 30) 4 x = none) (n : Nat) : 4 + 4 * UInt32.ofNat n < len := by
  have hlast := (sumLoop_eq_none_iff word len _ _ _).mp h (2 ^ 30 - 2) (by decide)
  have hlen : 4294967292 < len.toNat := UInt32.lt_iff_toNat_lt.mp hlast
  have hoffset : (4 + 4 * UInt32.ofNat n).toNat =
    (4 + 4 * (n % 4294967296) % 4294967296) % 4294967296 := rfl
  rw [UInt32.lt_iff_toNat_lt, hoffset]
  omega

/-- The sum of a payload, or nothing when the loop does not end. The offset takes no more values than
the loop is given iterations, and a loop that needs more goes on for ever (`sumLoop_never_ends`). -/
def sumWords (buf : List UInt8) (beyond : Nat → UInt8) : Option UInt32 :=
  let word (offset : UInt32) := getU32 (memory buf beyond) offset.toNat
  sumLoop word (UInt32.ofNat buf.length) (2 ^ 30) 4 (word 0)

/-- How a call ends. -/
inductive Result (α : Type)
  | returned (value : α)
  | failed
  | hangs
  deriving DecidableEq, Repr

/-- The bytes `tad_get_size` writes. -/
def sizeRequest (unit : UInt32) : List (List UInt8) :=
  [putU32 0x000d, [0], putU32 0x0001, putU32 0x0001, putU32 unit]

/-- `tad_get_size`. -/
def Tad.tadGetSize (tad : Tad) (limits : Nat → Nat) (unit size : UInt32) : Result UInt32 :=
  match tad.size.send (sizeRequest unit) with
  | none => .failed
  | some stream =>
    match receive stream limits tad.beyond with
    | none => .failed
    | some [] => .returned size
    | some buf =>
      match sumWords buf tad.beyond with
      | none => .hangs
      | some x => .returned x

/-- The bytes `tad_read` writes. -/
def dataRequest (unit size : UInt32) : List (List UInt8) :=
  [putU32 0x0011, [0], putU32 0x0001, putU32 0x0000, putU32 unit ++ putU32 size]

/-- `tad_read`: the buffer afterwards. -/
def Tad.tadRead (tad : Tad) (limits : Nat → Nat) (unit : UInt32) (buf : List UInt8) (size : UInt32) :
    Option (List UInt8) :=
  match tad.data.send (dataRequest unit size) with
  | none => none
  | some stream =>
    match receive stream limits tad.beyond with
    | none => none
    | some unitBuf =>
      if unitBuf.length > size.toNat then some (unitBuf.drop (unitBuf.length - size.toNat))
      else some buf

/-- The characters of a C string. -/
def cString (str : List UInt8) : List UInt8 :=
  str.takeWhile (· ≠ 0)

/-- `ta_get_cust_active`: the characters it returns, or nothing when it does not return. -/
def Tad.taGetCustActive (tad : Tad) (cuts : Cuts) : Option (List UInt8) :=
  match tad.tadGetSize cuts.size 0x8A4 0 with
  | .hangs => none
  | .failed => some []
  | .returned size =>
    if size = 0 then some []
    else
      match tad.tadRead cuts.data 0x8A4 (List.replicate size.toNat 0) size with
      | none => some []
      | some buf => some (cString (buf ++ [0]))

end Yoshino.TrimArea
