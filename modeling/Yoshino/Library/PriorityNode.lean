import Mathlib.Data.List.Basic

/-!
# Nodes arbitrated by value priority

A node lists its values from the highest priority down and holds the first one that some
outstanding action requests, falling back to the last value when nothing is requested.
-/

namespace Yoshino.Library

variable {V : Type*}

/-- The first requested value of a priority list, or its last entry. -/
def heldValue [Inhabited V] (values : List V) (requested : V → Bool) : V :=
  (values.find? requested).getD (values.getLast?.getD default)

/-- A requested value of the highest priority is held whatever else is requested. -/
theorem heldValue_cons_of_requested [Inhabited V] (v : V) (rest : List V) (requested : V → Bool)
    (h : requested v = true) : heldValue (v :: rest) requested = v := by
  simp [heldValue, h]

/-- A value that is not requested leaves the choice to the lower priorities. -/
theorem heldValue_cons_of_not_requested [Inhabited V] (v w : V) (rest : List V)
    (requested : V → Bool) (h : requested v = false) :
    heldValue (v :: w :: rest) requested = heldValue (w :: rest) requested := by
  simp [heldValue, h]

/-- The lowest priority is held whether or not it is requested. -/
theorem heldValue_singleton [Inhabited V] (v : V) (requested : V → Bool) :
    heldValue [v] requested = v := by
  cases h : requested v <;> simp [heldValue, h]

end Yoshino.Library
