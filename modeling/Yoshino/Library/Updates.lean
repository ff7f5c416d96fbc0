import Mathlib.Data.List.Nodup
import Mathlib.Logic.Function.Basic

/-!
# Sequences of writes

What a map holds after a sequence of writes to it.
-/

namespace Yoshino.Library

variable {K V : Type*} [DecidableEq K]

/-- Write the values one after the other. -/
def applyWrites (writes : List (K × V)) (m : K → V) : K → V :=
  writes.foldl (fun m w => Function.update m w.1 w.2) m

/-- No writes leave the map alone. -/
@[simp] theorem applyWrites_nil (m : K → V) : applyWrites [] m = m := rfl

/-- The first write comes first. -/
theorem applyWrites_cons (w : K × V) (writes : List (K × V)) (m : K → V) :
    applyWrites (w :: writes) m = applyWrites writes (Function.update m w.1 w.2) := rfl

/-- Writes after each other. -/
theorem applyWrites_append (first second : List (K × V)) (m : K → V) :
    applyWrites (first ++ second) m = applyWrites second (applyWrites first m) := List.foldl_append

/-- What is not written to is unchanged. -/
theorem applyWrites_of_not_mem {writes : List (K × V)} {k : K} (h : k ∉ writes.map Prod.fst)
    (m : K → V) : applyWrites writes m k = m k := by
  induction writes generalizing m with
  | nil => rfl
  | cons w writes ih =>
    rw [List.map_cons, List.mem_cons, not_or] at h
    rw [applyWrites_cons, ih h.2, Function.update_of_ne h.1]

/-- What is written to once holds what was written. -/
theorem applyWrites_of_mem {writes : List (K × V)} (hnodup : (writes.map Prod.fst).Nodup) {k : K} {v : V}
    (h : (k, v) ∈ writes) (m : K → V) : applyWrites writes m k = v := by
  induction writes generalizing m with
  | nil => exact absurd h List.not_mem_nil
  | cons w writes ih =>
    obtain ⟨hfirst, hrest⟩ := List.nodup_cons.mp hnodup
    rw [applyWrites_cons]
    rcases List.mem_cons.mp h with rfl | hlater
    · rw [applyWrites_of_not_mem hfirst, Function.update_self]
    · exact ih hrest hlater _

end Yoshino.Library
