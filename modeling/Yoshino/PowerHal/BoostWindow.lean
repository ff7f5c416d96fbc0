import Mathlib.Data.List.Induction
import Mathlib.Data.List.Pairwise
import Yoshino.PowerHal.BoostDuration
import Yoshino.PowerHal.InteractionBoost

/-!
# The boost window

The boost asked for ends `mDurationMs` after `mLastTimespec`. A request is skipped when the boost
outlasts it, by a difference of timespecs that is less than a millisecond off either way. While the
handler is out of `IDLE` the end of the boost never moves back.
-/

namespace Yoshino.PowerHal

open Yoshino.Library

/-- The time in nanoseconds. -/
def Timespec.nanoseconds (t : Timespec) : Int := t.sec.toInt * 1000000000 + t.nsec.toInt

/-- What `CLOCK_MONOTONIC` reports: a normalized time whose milliseconds fit in 64 bits. -/
def Timespec.Valid (t : Timespec) : Prop :=
  (0 ≤ t.nsec.toInt ∧ t.nsec.toInt < 1000000000) ∧ 0 ≤ t.sec.toInt ∧ t.sec.toInt * 1000 + 999 < 2 ^ 63

instance (t : Timespec) : Decidable t.Valid :=
  inferInstanceAs (Decidable (_ ∧ _))

/-- When the boost asked for ends, in nanoseconds. -/
def Handler.boostEnd (s : Handler) : Int :=
  s.mLastTimespec.nanoseconds + s.mDurationMs.toInt * 1000000

/-- A division that truncates toward zero is less than one off. -/
theorem tdiv_million_bounds (n : Int) :
    n - 1000000 < 1000000 * n.tdiv 1000000 ∧ 1000000 * n.tdiv 1000000 < n + 1000000 := by
  have hdiv := Int.mul_tdiv_add_tmod n 1000000
  have hlower := Int.lt_tmod_of_pos n (b := 1000000) (by decide)
  have hupper := Int.tmod_lt_of_pos n (b := 1000000) (by decide)
  omega

/-- The difference in milliseconds does not overflow. -/
theorem toInt_calcTimespecDiffMs {start stop : Timespec} (hstart : start.Valid) (hstop : stop.Valid) :
    (calcTimespecDiffMs start stop).toInt =
      (stop.sec.toInt - start.sec.toInt) * 1000 + (stop.nsec.toInt - start.nsec.toInt).tdiv 1000000 := by
  obtain ⟨⟨hstartNsec, hstartNsec'⟩, hstartSec, hstartSec'⟩ := hstart
  obtain ⟨⟨hstopNsec, hstopNsec'⟩, hstopSec, hstopSec'⟩ := hstop
  have hbmod : ∀ x : Int, -2 ^ 63 ≤ x → x < 2 ^ 63 → x.bmod (2 ^ 64) = x := fun x hlower hupper =>
    Int.bmod_eq_of_le (by omega) (by omega)
  have hmillion : (1000000 : Int64).toInt = 1000000 := by decide
  have hthousand : (1000 : Int64).toInt = 1000 := by decide
  have hnsec : (stop.nsec - start.nsec).toInt = stop.nsec.toInt - start.nsec.toInt := by
    rw [Int64.toInt_sub, hbmod _ (by omega) (by omega)]
  have hdiv : ((stop.nsec - start.nsec) / 1000000).toInt =
      (stop.nsec.toInt - start.nsec.toInt).tdiv 1000000 := by
    rw [Int64.toInt_div_of_ne_right _ _ (by decide), hnsec, hmillion]
  have hsec : (stop.sec - start.sec).toInt = stop.sec.toInt - start.sec.toInt := by
    rw [Int64.toInt_sub, hbmod _ (by omega) (by omega)]
  have hmul : ((stop.sec - start.sec) * 1000).toInt = (stop.sec.toInt - start.sec.toInt) * 1000 := by
    rw [Int64.toInt_mul, hsec, hthousand, hbmod _ (by omega) (by omega)]
  have hbounds := tdiv_million_bounds (stop.nsec.toInt - start.nsec.toInt)
  unfold calcTimespecDiffMs
  rw [Int64.toInt_add, hmul, hdiv, hbmod _ (by omega) (by omega)]

/-- The difference in milliseconds is less than one off, above or below the elapsed time. -/
theorem calcTimespecDiffMs_bounds {start stop : Timespec} (hstart : start.Valid) (hstop : stop.Valid) :
    ((calcTimespecDiffMs start stop).toInt - 1) * 1000000 < stop.nanoseconds - start.nanoseconds ∧
      stop.nanoseconds - start.nanoseconds < ((calcTimespecDiffMs start stop).toInt + 1) * 1000000 := by
  rw [toInt_calcTimespecDiffMs hstart hstop]
  -- the division truncates toward zero, so it is off in the direction of the difference
  have hbounds := tdiv_million_bounds (stop.nsec.toInt - start.nsec.toInt)
  unfold Timespec.nanoseconds
  omega

/-- The times of the `Acquire` calls among the steps. -/
def acquireTimes (events : List HandlerEvent) : List Timespec :=
  events.filterMap fun
    | .acquire _ now => some now
    | _ => none

theorem acquireTimes_append (first second : List HandlerEvent) :
    acquireTimes (first ++ second) = acquireTimes first ++ acquireTimes second :=
  List.filterMap_append

/-- While the boost is held, its time and duration are those of a call. -/
def Handler.Dated (times : List Timespec) (s : Handler) : Prop :=
  s.boosting = true → s.mLastTimespec ∈ times ∧ ∃ duration, s.mDurationMs = finalDuration duration

/-- A step that leaves time and duration alone and starts no boost keeps them dated. -/
theorem Handler.Dated.congr {times : List Timespec} {s s' : Handler} (h : s.Dated times)
    (htime : s'.mLastTimespec = s.mLastTimespec) (hduration : s'.mDurationMs = s.mDurationMs)
    (hboosting : s'.boosting = true → s.boosting = true) : s'.Dated times := by
  intro hafter
  rw [htime, hduration]
  exact h (hboosting hafter)

/-- The section of `Routine` under the lock keeps the boost dated. -/
theorem Handler.Dated.lock {times : List Timespec} {s : Handler} (h : s.Dated times) :
    s.lock.Dated times := by
  unfold Handler.lock
  cases hstate : s.mState with
  | idle => exact h
  | uninitialized => exact fun hboosting => absurd hboosting (by simp [boosting])
  | interaction | waiting => exact h.congr rfl rfl fun _ => by simp [boosting, hstate]

/-- A step keeps the boost dated when the time of its call is added. -/
theorem Handler.Dated.step {times : List Timespec} {s : Handler} (h : s.Dated times)
    (e : HandlerEvent) : (s.step e).Dated (times ++ acquireTimes [e]) := by
  have hgrown : s.Dated (times ++ acquireTimes [e]) := fun hboosting =>
    ⟨List.mem_append_left _ (h hboosting).1, (h hboosting).2⟩
  refine Handler.step_rule (Handler.Dated _) e hgrown ?_ ?_ (fun _ _ => ?_)
    (fun _ => hgrown.congr rfl rfl id) (hgrown.congr rfl rfl id) (fun _ => hgrown.lock)
    (hgrown.congr rfl rfl id) (fun _ => hgrown.congr rfl rfl id) (fun _ => hgrown.congr rfl rfl id)
    (fun _ => ?_)
  · intro idleOpens eventOpens
    unfold Handler.init
    split
    · exact hgrown
    · split
      · exact hgrown
      · split
        · exact hgrown.congr rfl rfl id
        · exact fun hidle => absurd hidle (by simp [boosting])
  · rintro duration now rfl
    rcases s.acquire_cases duration now with hsame | ⟨hinit, hnew⟩
    · rw [hsame]
      exact hgrown
    · rw [hnew]
      refine fun _ => ⟨List.mem_append_right _ (by simp [acquireTimes]), duration, ?_⟩
      dsimp only
  · unfold Handler.exit
    split
    · exact hgrown
    · exact fun huninitialized => absurd huninitialized (by simp [boosting])
  · unfold Handler.release
    split
    · exact fun hidle => absurd hidle (by simp [boosting])
    · exact hgrown.congr rfl rfl id

/-- In every state of a run the boost is dated by an earlier call. -/
theorem Handler.dated (events : List HandlerEvent) :
    (run Handler.step .constructed events).Dated (acquireTimes events) := by
  induction events using List.reverseRecOn with
  | nil => exact fun h => absurd h (by decide)
  | append_singleton events e ih =>
    rw [run_concat, acquireTimes_append]
    exact ih.step e

/-- A call that is skipped leaves the end of the boost, one that is accepted moves it. -/
theorem Handler.boostEnd_acquire {s : Handler} (hinit : s.mState ≠ .uninitialized) (duration : Int32)
    (now : Timespec) :
    (s.acquire duration now).boostEnd =
      if s.covers duration now then s.boostEnd
      else now.nanoseconds + (finalDuration duration).toInt * 1000000 := by
  unfold Handler.acquire
  rw [if_neg hinit]
  split
  · rfl
  · cases hstate : s.mState <;> simp only [boostEnd, record, abortWaitLocked]

/-- A call is skipped when the boost held is at least as long, by at least the elapsed milliseconds. -/
theorem Handler.covers_iff {s : Handler} {old : Int32} (hold : s.mDurationMs = finalDuration old)
    (hboosting : s.boosting = true) (duration : Int32) (now : Timespec) :
    s.covers duration now = true ↔
      (finalDuration duration).toInt ≤ s.mDurationMs.toInt ∧
        (calcTimespecDiffMs s.mLastTimespec now).toInt ≤
          s.mDurationMs.toInt - (finalDuration duration).toInt := by
  have hfinal := finalDuration_bounds duration
  have holdBounds := finalDuration_bounds old
  have hsub : (s.mDurationMs - finalDuration duration).toInt =
      s.mDurationMs.toInt - (finalDuration duration).toInt := by
    refine toInt_sub_of_fits ?_
    rw [hold]
    unfold Fits
    omega
  have hidle : s.mState ≠ .idle := (s.boosting_iff.mp hboosting).1
  simp [covers, hidle, Int32.le_iff_toInt_le, Int64.le_iff_toInt_le, hsub]

/-- A call in an initialized handler leaves a boost that lasts as long as requested, less a millisecond,
and no shorter than the boost before it. -/
theorem Handler.acquire_window {times : List Timespec} {s : Handler} (hdated : s.Dated times)
    (hinit : s.mState ≠ .uninitialized) (duration : Int32) {now : Timespec} (hnow : now.Valid)
    (htimes : ∀ t ∈ times, t.Valid ∧ t.nanoseconds ≤ now.nanoseconds) :
    now.nanoseconds + (finalDuration duration).toInt * 1000000 - 1000000 ≤
        (s.acquire duration now).boostEnd ∧
      (s.boosting = true → s.boostEnd ≤ (s.acquire duration now).boostEnd) := by
  rw [boostEnd_acquire hinit]
  cases hboosting : s.boosting with
  | false =>
    have hidle : s.mState = .idle := (s.boosting_eq_false_iff.mp hboosting).resolve_right hinit
    have haccepted : s.covers duration now = false := by simp [covers, hidle]
    rw [haccepted]
    exact ⟨by simp, by simp⟩
  | true =>
    obtain ⟨hlast, old, hold⟩ := hdated hboosting
    obtain ⟨hlastValid, hlastBefore⟩ := htimes _ hlast
    obtain ⟨hlower, hupper⟩ := calcTimespecDiffMs_bounds hlastValid hnow
    have hcovers := covers_iff hold hboosting duration now
    split
    next hskipped =>
      -- skipped: the elapsed time is less than a millisecond above the difference
      obtain ⟨-, helapsed⟩ := hcovers.mp hskipped
      unfold boostEnd
      omega
    next haccepted =>
      -- accepted: the request is longer, or the elapsed time is above what the boost has left
      rw [hcovers, not_and_or] at haccepted
      unfold boostEnd
      omega

/-- Only a call moves the end of a boost that is held, and not back. -/
theorem Handler.boostEnd_le_step {times : List Timespec} {s : Handler} (hdated : s.Dated times)
    (hboosting : s.boosting = true) (e : HandlerEvent)
    (htimes : ∀ now ∈ acquireTimes [e], now.Valid ∧
      ∀ t ∈ times, t.Valid ∧ t.nanoseconds ≤ now.nanoseconds) :
    s.boostEnd ≤ (s.step e).boostEnd := by
  obtain ⟨hidle, hinit⟩ := s.boosting_iff.mp hboosting
  refine Handler.step_rule (fun s' => s.boostEnd ≤ s'.boostEnd) e le_rfl ?_ ?_ (fun _ _ => ?_)
    (fun _ => le_rfl) le_rfl (fun _ => ?_) le_rfl (fun _ => le_rfl) (fun _ => le_rfl) (fun _ => ?_)
  · intro idleOpens eventOpens
    rw [Handler.init, if_pos hinit]
  · rintro duration now rfl
    obtain ⟨hnow, hearlier⟩ := htimes now (by simp [acquireTimes])
    exact (acquire_window hdated hinit duration hnow hearlier).2 hboosting
  · rw [Handler.exit, if_neg hinit]
    rfl
  · cases hstate : s.mState <;> simp [Handler.lock, hstate, boostEnd]
  · unfold Handler.release
    split <;> exact le_rfl

/-- The times up to a call come before it. -/
theorem acquireTimes_before {events before : List HandlerEvent} {duration : Int32} {now : Timespec}
    (hvalid : ∀ t ∈ acquireTimes events, t.Valid)
    (hclock : (acquireTimes events).Pairwise (·.nanoseconds ≤ ·.nanoseconds))
    (hcall : before ++ [.acquire duration now] <+: events) :
    now.Valid ∧ ∀ t ∈ acquireTimes before, t.Valid ∧ t.nanoseconds ≤ now.nanoseconds := by
  obtain ⟨after, rfl⟩ := hcall
  have htimes : acquireTimes (before ++ [.acquire duration now] ++ after) =
      acquireTimes before ++ (now :: acquireTimes after) := by
    rw [List.append_assoc, acquireTimes_append]
    rfl
  rw [htimes] at hvalid hclock
  refine ⟨hvalid now (by simp), fun t ht => ⟨hvalid t (List.mem_append_left _ ht), ?_⟩⟩
  exact (List.pairwise_append.mp hclock).2.2 t ht now (by simp)

/-- The times of the first steps are valid and in order when all are. -/
theorem acquireTimes_of_append {first second : List HandlerEvent}
    (hvalid : ∀ t ∈ acquireTimes (first ++ second), t.Valid)
    (hclock : (acquireTimes (first ++ second)).Pairwise (·.nanoseconds ≤ ·.nanoseconds)) :
    (∀ t ∈ acquireTimes first, t.Valid) ∧
      (acquireTimes first).Pairwise (·.nanoseconds ≤ ·.nanoseconds) := by
  rw [acquireTimes_append] at hvalid hclock
  exact ⟨(List.forall_mem_append.mp hvalid).1, (List.pairwise_append.mp hclock).1⟩

/-- Over a stretch of steps that are all taken out of `IDLE` the end of the boost does not move back. -/
theorem Handler.boostEnd_le_run {first second : List HandlerEvent}
    (hvalid : ∀ t ∈ acquireTimes (first ++ second), t.Valid)
    (hclock : (acquireTimes (first ++ second)).Pairwise (·.nanoseconds ≤ ·.nanoseconds))
    (hout : StepsMeet Handler.step (fun s _ => s.boosting = true)
      (run Handler.step .constructed first) second) :
    (run Handler.step .constructed first).boostEnd ≤
      (run Handler.step .constructed (first ++ second)).boostEnd := by
  induction second using List.reverseRecOn with
  | nil => rw [List.append_nil]
  | append_singleton second e ih =>
    rw [← List.append_assoc] at hvalid hclock ⊢
    obtain ⟨hstretch, hlast, -⟩ := (stepsMeet_append _ second [e]).mp hout
    rw [← run_append] at hlast
    obtain ⟨hvalidBefore, hclockBefore⟩ := acquireTimes_of_append hvalid hclock
    refine (ih hvalidBefore hclockBefore hstretch).trans ?_
    rw [run_concat]
    refine boostEnd_le_step (dated _) hlast e fun now hnow => ?_
    cases e with
    | acquire duration t =>
      obtain rfl : now = t := by simpa [acquireTimes] using hnow
      exact acquireTimes_before hvalid hclock List.prefix_rfl
    | _ => exact absurd hnow (by simp [acquireTimes])

/-- The boost window only grows. After each call, skipped or accepted, it lasts as long as requested,
less a millisecond; no call out of `IDLE` makes it end earlier, and so no stretch of steps that stays
out of `IDLE` does. -/
theorem Handler.boost_window_grows (events : List HandlerEvent)
    (hvalid : ∀ t ∈ acquireTimes events, t.Valid)
    (hclock : (acquireTimes events).Pairwise (·.nanoseconds ≤ ·.nanoseconds)) :
    (∀ before duration now, before ++ [.acquire duration now] <+: events →
      let s := run Handler.step .constructed before
      s.terminated = false → s.mState ≠ .uninitialized →
        let s' := s.step (.acquire duration now)
        now.nanoseconds + (finalDuration duration).toInt * 1000000 - 1000000 ≤ s'.boostEnd ∧
          (s.mState ≠ .idle → s.boostEnd ≤ s'.boostEnd)) ∧
      ∀ first second, first ++ second <+: events →
        StepsMeet Handler.step (fun s _ => s.mState ≠ .idle ∧ s.mState ≠ .uninitialized)
          (run Handler.step .constructed first) second →
        (run Handler.step .constructed first).boostEnd ≤
          (run Handler.step .constructed (first ++ second)).boostEnd := by
  constructor
  · intro before duration now hcall s hrunning hinit s'
    obtain ⟨hnow, hearlier⟩ := acquireTimes_before hvalid hclock hcall
    obtain ⟨hlasts, hgrows⟩ := acquire_window (dated before) hinit duration hnow hearlier
    have hstep : s' = s.acquire duration now := by simp [s', Handler.step, hrunning]
    rw [hstep]
    exact ⟨hlasts, fun hidle => hgrows (s.boosting_iff.mpr ⟨hidle, hinit⟩)⟩
  · rintro first second ⟨after, rfl⟩ hout
    obtain ⟨hvalidFirst, hclockFirst⟩ := acquireTimes_of_append hvalid hclock
    refine boostEnd_le_run hvalidFirst hclockFirst ?_
    simpa only [boosting_iff] using hout

/-- Two calls 700 ms apart: the second is covered and skipped. -/
theorem Handler.boost_window_two_calls :
    let before : List HandlerEvent := [.init true true, .acquire 5000 ⟨100, 900000000⟩]
    let s := (run Handler.step .constructed before).step (.acquire 0 ⟨101, 600000000⟩)
    Timespec.nanoseconds ⟨101, 600000000⟩ + (finalDuration 0).toInt * 1000000 - 1000000 ≤ s.boostEnd ∧
      s.boostEnd = 106550000000 := by
  intro before s
  have hgrows := boost_window_grows (before ++ [.acquire 0 ⟨101, 600000000⟩]) (by decide) (by decide)
  have hcall := hgrows.1 before 0 ⟨101, 600000000⟩ List.prefix_rfl (by decide) (by decide)
  exact ⟨hcall.1, by decide +kernel⟩

end Yoshino.PowerHal
