import Yoshino.Library.SignedArithmetic
import Yoshino.PowerHal.InteractionHandler
import Yoshino.PowerHal.Service

/-!
# The duration of an interaction boost

`Acquire` adds 650 ms to the requested duration and clamps the sum. The result is exact, and longer
requests get longer boosts, as long as the sum does not overflow; the sum is formed before the clamp,
from a number any client can send.
-/

namespace Yoshino.PowerHal

open Yoshino.Library

/-- The duration is 650 ms more than requested within its bounds, computed without overflow, and no
shorter request gets a longer one. -/
structure ExactDuration (duration : Int32) : Prop where
  fits : Fits (duration.toInt + 650)
  clamped : (finalDuration duration).toInt = min (max (duration.toInt + 650) 1400) 5650
  monotone : ∀ shorter ≤ duration, finalDuration shorter ≤ finalDuration duration

/-- The clamp is exact when the sum fits. -/
theorem finalDuration_of_fits {duration : Int32} (h : Fits (duration.toInt + 650)) :
    (finalDuration duration).toInt = min (max (duration.toInt + 650) 1400) 5650 := by
  have hsum : (duration + 650).toInt = duration.toInt + 650 := toInt_add_of_fits h
  have hmaxDuration : (5650 : Int32).toInt = 5650 := by decide
  have hminDuration : (1400 : Int32).toInt = 1400 := by decide
  unfold finalDuration
  dsimp only
  split
  next hmax =>
    rw [gt_iff_lt, Int32.lt_iff_toInt_lt, hsum, hmaxDuration] at hmax
    omega
  next hmax =>
    rw [gt_iff_lt, Int32.lt_iff_toInt_lt, hsum, hmaxDuration] at hmax
    split
    next hmin =>
      rw [gt_iff_lt, Int32.lt_iff_toInt_lt, hsum, hminDuration] at hmin
      omega
    next hmin =>
      rw [gt_iff_lt, Int32.lt_iff_toInt_lt, hsum, hminDuration] at hmin
      omega

/-- Every duration asked for is within the bounds, an overflown sum included. -/
theorem finalDuration_bounds (duration : Int32) :
    1400 ≤ (finalDuration duration).toInt ∧ (finalDuration duration).toInt ≤ 5650 := by
  have hmaxDuration : (5650 : Int32).toInt = 5650 := by decide
  have hminDuration : (1400 : Int32).toInt = 1400 := by decide
  unfold finalDuration
  dsimp only
  split
  · omega
  next hmax =>
    rw [gt_iff_lt, Int32.lt_iff_toInt_lt, hmaxDuration] at hmax
    split
    next hmin =>
      rw [gt_iff_lt, Int32.lt_iff_toInt_lt, hminDuration] at hmin
      omega
    · omega

/-- The sum fits up to the largest duration below the end of the range. -/
theorem fits_add_iff (duration : Int32) :
    Fits (duration.toInt + 650) ↔ duration.toInt ≤ 2147482997 := by
  have hlower := duration.le_toInt
  unfold Fits
  omega

/-- A duration is exact when its sum fits; a shorter one then fits as well. -/
theorem exactDuration_iff (duration : Int32) :
    ExactDuration duration ↔ duration.toInt ≤ 2147482997 := by
  rw [← fits_add_iff]
  refine ⟨ExactDuration.fits, fun hfits => ⟨hfits, finalDuration_of_fits hfits, ?_⟩⟩
  intro shorter hshorter
  have hle : shorter.toInt ≤ duration.toInt := Int32.le_iff_toInt_le.mp hshorter
  have hbound := (fits_add_iff duration).mp hfits
  have hshorterFits := (fits_add_iff shorter).mpr (hle.trans hbound)
  rw [Int32.le_iff_toInt_le, finalDuration_of_fits hfits, finalDuration_of_fits hshorterFits]
  omega

/-- A duration received through an `INTERACTION` hint is exact unless adding 650 ms overflows. -/
theorem powerHint_interaction_exact_iff (p : Power) (data duration : Int32)
    (hreceived : (p.powerHint .interaction data).acquired = duration :: p.acquired) :
    ExactDuration duration ↔ data.toInt ≤ 2147482997 := by
  have hsame : duration = data := by
    unfold Power.powerHint at hreceived
    split at hreceived
    · exact absurd hreceived.symm (List.cons_ne_self _ _)
    · dsimp only at hreceived
      split at hreceived
      · exact absurd hreceived.symm (List.cons_ne_self _ _)
      · exact (List.cons.inj hreceived).1.symm
  rw [hsame]
  exact exactDuration_iff data

/-- A request of two seconds to a started service. -/
theorem powerHint_interaction_two_seconds : ExactDuration 2000 := by
  have hreceived : ((Power.construct ⟨"", "", ""⟩).initialise.powerHint .interaction 2000).acquired =
      [2000] := by decide
  exact (powerHint_interaction_exact_iff (Power.construct ⟨"", "", ""⟩).initialise 2000 2000
    hreceived).mpr (by decide)

/-- The longest request wraps around and gets the shortest boost. -/
theorem powerHint_interaction_longest :
    ((Power.construct ⟨"", "", ""⟩).initialise.powerHint .interaction 2147483647).acquired =
        [2147483647] ∧
      ¬ Fits ((2147483647 : Int32).toInt + 650) ∧
      (finalDuration 2147483647).toInt = 1400 ∧
      min (max ((2147483647 : Int32).toInt + 650) 1400) 5650 = 5650 ∧
      ¬ finalDuration 2147482997 ≤ finalDuration 2147483647 := by
  decide

end Yoshino.PowerHal
