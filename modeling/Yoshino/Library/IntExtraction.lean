import Mathlib.Algebra.Order.Ring.Int
import Mathlib.Data.List.TakeWhile

/-!
# Reading an `int` from a stream

Formatted extraction of the C++ standard library. It skips white space; at the end of the file it
leaves its target alone, otherwise it always stores something: the number the text begins with, the
nearest bound when that is out of range, or zero when there is none.
-/

namespace Yoshino.Library

/-- `isspace` of the classic locale. -/
def isSpace (c : UInt8) : Bool :=
  c == 32 || (9 ≤ c && c ≤ 13)

/-- `isdigit` of the classic locale. -/
def isDigit (c : UInt8) : Bool :=
  48 ≤ c && c ≤ 57

/-- The number a text begins with, if that is a digit. -/
def leadingDigits (text : List UInt8) : Option Int :=
  match text.takeWhile isDigit with
  | [] => none
  | digits => some (digits.foldl (fun n c => 10 * n + (c.toNat - 48)) 0 : Nat)

/-- The number a text begins with, after white space and a sign. -/
def leadingNumber (text : List UInt8) : Option Int :=
  match text.dropWhile isSpace with
  | [] => none
  | first :: rest =>
    if first = 45 then (leadingDigits rest).map (- ·)
    else if first = 43 then leadingDigits rest
    else leadingDigits (first :: rest)

/-- `stream >> value`: the value afterwards, and whether the stream is still good. -/
def extract (text : List UInt8) (value : Int32) : Int32 × Bool :=
  if text.all isSpace then (value, false)
  else
    match leadingNumber text with
    | none => (0, false)
    | some n =>
      if n < -2 ^ 31 then (Int32.minValue, false)
      else if 2 ^ 31 ≤ n then (Int32.maxValue, false)
      else (Int32.ofInt n, true)

/-- White space holds no number. -/
theorem leadingNumber_of_space {text : List UInt8} (h : text.all isSpace = true) :
    leadingNumber text = none := by
  have hnil : text.dropWhile isSpace = [] :=
    List.dropWhile_eq_nil_iff.mpr (List.all_eq_true.mp h)
  unfold leadingNumber
  rw [hnil]

/-- What stands behind a number is not white space only. -/
theorem extract_of_number {text : List UInt8} {n : Int} (h : leadingNumber text = some n)
    (value : Int32) : (extract text value).1 =
      if n < -2 ^ 31 then Int32.minValue else if 2 ^ 31 ≤ n then Int32.maxValue else Int32.ofInt n := by
  have hspace : ¬ text.all isSpace = true := fun hspace => by
    rw [leadingNumber_of_space hspace] at h
    exact absurd h (by simp)
  unfold extract
  rw [if_neg hspace, h]
  dsimp only
  split
  · rfl
  · split <;> rfl

end Yoshino.Library
