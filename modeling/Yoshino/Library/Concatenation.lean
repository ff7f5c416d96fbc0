import Mathlib.Data.List.Basic

/-!
# Concatenation without separators

When two lists of words have the same concatenation and differ, a boundary is shifted: at the first
difference one word continues the other with letters that the rest of the other list supplies.
-/

namespace Yoshino.Library

variable {α : Type*}

/-- The first word of the second list goes on with letters that the rest of the first supplies. -/
def Overlaps (x : List α) (xs : List (List α)) (y : List α) (ys : List (List α)) : Prop :=
  ∃ t, t ≠ [] ∧ y = x ++ t ∧ xs.flatten = t ++ ys.flatten

/-- The lists agree up to a word whose boundary is shifted. -/
def Shifted : List (List α) → List (List α) → Prop
  | x :: xs, y :: ys => x = y ∧ Shifted xs ys ∨ Overlaps x xs y ys ∨ Overlaps y ys x xs
  | _, _ => False

/-- A word that overlaps differs. -/
theorem Overlaps.ne {x y : List α} {xs ys : List (List α)} (h : Overlaps x xs y ys) : x ≠ y := by
  obtain ⟨t, ht, rfl, -⟩ := h
  intro heq
  exact ht (List.self_eq_append_right.mp heq)

/-- Two concatenations whose first words differ are equal exactly when the words overlap. -/
theorem append_flatten_eq_iff {x y : List α} (hne : x ≠ y) (xs ys : List (List α)) :
    x ++ xs.flatten = y ++ ys.flatten ↔ Overlaps x xs y ys ∨ Overlaps y ys x xs := by
  rw [List.append_eq_append_iff]
  constructor
  · rintro (⟨t, hword, hrest⟩ | ⟨t, hword, hrest⟩)
    · exact .inl ⟨t, fun ht => hne (by rw [hword, ht, List.append_nil]), hword, hrest⟩
    · exact .inr ⟨t, fun ht => hne (by rw [hword, ht, List.append_nil]), hword, hrest⟩
  · rintro (⟨t, -, hword, hrest⟩ | ⟨t, -, hword, hrest⟩)
    · exact .inl ⟨t, hword, hrest⟩
    · exact .inr ⟨t, hword, hrest⟩

/-- Different lists of the same length have the same concatenation exactly when they are shifted. -/
theorem shifted_iff {xs ys : List (List α)} (hlength : xs.length = ys.length) :
    Shifted xs ys ↔ xs ≠ ys ∧ xs.flatten = ys.flatten := by
  induction xs generalizing ys with
  | nil =>
    obtain rfl := List.length_eq_zero_iff.mp hlength.symm
    simp [Shifted]
  | cons x xs ih =>
    cases ys with
    | nil => exact absurd hlength (by simp)
    | cons y ys =>
      have ih := ih (Nat.succ.inj hlength)
      rw [Shifted, List.flatten_cons, List.flatten_cons]
      by_cases hword : x = y
      · subst hword
        have hfirst : ¬ Overlaps x xs x ys := fun h => h.ne rfl
        have hsecond : ¬ Overlaps x ys x xs := fun h => h.ne rfl
        simp [hfirst, hsecond, ih]
      · rw [append_flatten_eq_iff hword]
        simp [hword]

end Yoshino.Library
