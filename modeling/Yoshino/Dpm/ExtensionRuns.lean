import Mathlib.Data.List.Infix
import Yoshino.Dpm.Utf8

/-!
# Runs of extension bytes

`strlen8to16` counts with an `int` how many extension bytes are still expected. The counter is set by the
first byte of each sequence and goes down by one for every extension byte, expected or not, so that a
string has a length exactly when no run of extension bytes takes the counter below its range.
-/

namespace Yoshino.Dpm

/-- A run of extension bytes that starts the string is no longer than the bound. -/
def StartingRuns (bound : Int) (text : List UInt8) : Prop :=
  ∀ run, run <+: text → (∀ byte ∈ run, isExtension byte = true) → run.length ≤ bound

/-- A run of extension bytes after a first byte is at most `2 ^ 31` bytes longer than the rest of the
sequence it starts. -/
def FollowingRuns (text : List UInt8) : Prop :=
  ∀ lead run, lead :: run <:+: text → isExtension lead = false →
    (∀ byte ∈ run, isExtension byte = true) →
    (run.length : Int) ≤ 2 ^ 31 + ((utf8SeqLength lead : Int) - 1)

/-- No run of extension bytes is more than `2 ^ 31` bytes longer than what comes before it announces. -/
def ShortRuns (text : List UInt8) : Prop := StartingRuns (2 ^ 31) text ∧ FollowingRuns text

/-- The counter stays in the range of an `int`. -/
def CounterFits (expected : Int) : List UInt8 → Prop
  | [] => True
  | byte :: rest =>
    if isExtension byte then -2 ^ 31 ≤ expected - 1 ∧ CounterFits (expected - 1) rest
    else CounterFits ((utf8SeqLength byte : Int) - 1) rest

/-- The units that are counted, with a counter of any size. -/
def needed (expected : Int) : List UInt8 → Nat
  | [] => 0
  | byte :: rest =>
    if isExtension byte then (if expected - 1 < 0 then 1 else 0) + needed (expected - 1) rest
    else (if utf8SeqLength byte = 4 then 2 else 1) + needed ((utf8SeqLength byte : Int) - 1) rest

/-- A string has a length exactly when the counter stays in range, and then the exact one. -/
theorem countUnits_eq_some_iff (text : List UInt8) (hnul : 0 ∉ text) (expected : Int) (len n : Nat) :
    countUnits expected len (text ++ [0]) = some n ↔
      CounterFits expected text ∧ n = len + needed expected text := by
  induction text generalizing expected len with
  | nil => simp [countUnits, CounterFits, needed, eq_comm]
  | cons byte rest ih =>
    rw [List.mem_cons, not_or] at hnul
    have hbyte : byte ≠ 0 := Ne.symm hnul.1
    cases hext : isExtension byte with
    | true =>
      rw [List.cons_append, countUnits, if_neg hbyte, if_pos hext, CounterFits, if_pos hext, needed,
        if_pos hext]
      by_cases hbelow : expected - 1 < -2 ^ 31
      · rw [if_pos hbelow]
        simp only [reduceCtorEq, false_iff]
        omega
      · rw [if_neg hbelow, ih hnul.2]
        have hrange : -2 ^ 31 ≤ expected - 1 := by omega
        simp only [hrange, true_and]
        refine and_congr_right fun _ => ?_
        split <;> omega
    | false =>
      rw [List.cons_append, countUnits_lead hbyte hext, ih hnul.2]
      simp only [CounterFits, needed, hext, Bool.false_eq_true, if_false]
      refine and_congr_right fun _ => ?_
      split <;> omega

/-- The runs at the start of the string, by its first byte. -/
theorem startingRuns_cons (bound : Int) (byte : UInt8) (rest : List UInt8) :
    StartingRuns bound (byte :: rest) ↔
      0 ≤ bound ∧ (isExtension byte = true → StartingRuns (bound - 1) rest) := by
  constructor
  · refine fun h => ⟨by simpa using h [] List.nil_prefix (by simp), fun hext run hrun hall => ?_⟩
    have hlength := h (byte :: run) (List.cons_prefix_cons.mpr ⟨rfl, hrun⟩)
      (List.forall_mem_cons.mpr ⟨hext, hall⟩)
    rw [List.length_cons] at hlength
    omega
  · rintro ⟨hbound, hrest⟩ run hrun hall
    cases run with
    | nil => simpa using hbound
    | cons first run =>
      obtain ⟨rfl, htail⟩ := List.cons_prefix_cons.mp hrun
      obtain ⟨hfirst, htailAll⟩ := List.forall_mem_cons.mp hall
      have hlength := hrest hfirst run htail htailAll
      rw [List.length_cons]
      omega

/-- The other runs, by the first byte of the string. -/
theorem followingRuns_cons (byte : UInt8) (rest : List UInt8) :
    FollowingRuns (byte :: rest) ↔
      (isExtension byte = false → StartingRuns (2 ^ 31 + ((utf8SeqLength byte : Int) - 1)) rest) ∧
        FollowingRuns rest := by
  constructor
  · intro h
    constructor
    · intro hlead run hrun hall
      exact h byte run (List.infix_cons_iff.mpr (.inl (List.cons_prefix_cons.mpr ⟨rfl, hrun⟩))) hlead hall
    · intro lead run hrun
      exact h lead run (List.infix_cons_iff.mpr (.inr hrun))
  · rintro ⟨hfirst, hrest⟩ lead run hrun hlead hall
    rcases List.infix_cons_iff.mp hrun with hhere | hlater
    · obtain ⟨rfl, htail⟩ := List.cons_prefix_cons.mp hhere
      exact hfirst hlead run htail hall
    · exact hrest lead run hlater hlead hall

/-- The counter stays in range exactly when no run of extension bytes is too long for it. -/
theorem counterFits_iff (text : List UInt8) (expected : Int) (hexpected : -2 ^ 31 ≤ expected) :
    CounterFits expected text ↔ StartingRuns (2 ^ 31 + expected) text ∧ FollowingRuns text := by
  induction text generalizing expected with
  | nil =>
    have hempty : StartingRuns (2 ^ 31 + expected) [] := fun run hrun _ => by
      rw [List.prefix_nil.mp hrun, List.length_nil]
      omega
    exact ⟨fun _ => ⟨hempty, fun lead run hrun => absurd (List.infix_nil.mp hrun) (by simp)⟩,
      fun _ => trivial⟩
  | cons byte rest ih =>
    have hbound : 0 ≤ 2 ^ 31 + expected := by omega
    rw [startingRuns_cons, followingRuns_cons]
    cases hext : isExtension byte with
    | true =>
      simp only [CounterFits, hext, if_true, hbound, Bool.true_eq_false, true_implies, false_implies,
        true_and]
      have hnext : 2 ^ 31 + expected - 1 = 2 ^ 31 + (expected - 1) := by omega
      rw [hnext]
      constructor
      · rintro ⟨hrange, hrest⟩
        exact (ih _ hrange).mp hrest
      · rintro ⟨hstart, hrest⟩
        have hrange : -2 ^ 31 ≤ expected - 1 := by
          have := hstart [] List.nil_prefix (by simp)
          rw [List.length_nil] at this
          omega
        exact ⟨hrange, (ih _ hrange).mpr ⟨hstart, hrest⟩⟩
    | false =>
      simp only [CounterFits, hext, hbound, Bool.false_eq_true, if_false, true_implies, false_implies,
        true_and]
      exact ih _ (by omega)

/-- A string of up to `2 ^ 31` bytes has no run that is too long. -/
theorem shortRuns_of_length_le {text : List UInt8} (h : text.length ≤ 2 ^ 31) : ShortRuns text := by
  constructor
  · intro run hrun _
    have hlength := hrun.length_le
    omega
  · intro lead run hrun _ _
    have hlength := hrun.length_le
    rw [List.length_cons] at hlength
    omega

end Yoshino.Dpm
