import Mathlib.Data.List.MinMax

/-!
# The first element with the greatest score

`List.argmax` finds it; here it is described by its place: what stands before it scores less, what
stands after it scores no more. This makes it easy to compare with the first greatest element of a
sublist, and tells exactly when the element found has a given property.
-/

namespace Yoshino.Library

variable {A B : Type*} [LinearOrder B] {score : A → B} {l : List A} {a : A}

/-- The element that is found divides the list. -/
theorem exists_split_of_argmax (h : l.argmax score = some a) :
    ∃ before after, l = before ++ a :: after ∧
      (∀ x ∈ before, score x < score a) ∧ ∀ x ∈ after, score x ≤ score a := by
  induction l with
  | nil => exact absurd h nofun
  | cons head tail ih =>
    rw [List.argmax_cons] at h
    cases htail : tail.argmax score with
    | none =>
      rw [htail] at h
      obtain rfl : head = a := Option.some.inj h
      rw [List.argmax_eq_none.mp htail]
      exact ⟨[], [], rfl, nofun, nofun⟩
    | some c =>
      rw [htail] at h
      dsimp only at h
      split at h
      next hlt =>
        obtain rfl : c = a := Option.some.inj h
        obtain ⟨before, after, rfl, hbefore, hafter⟩ := ih htail
        exact ⟨head :: before, after, rfl, List.forall_mem_cons.mpr ⟨hlt, hbefore⟩, hafter⟩
      next hle =>
        obtain rfl : head = a := Option.some.inj h
        exact ⟨[], tail, rfl, nofun, fun x hx =>
          (List.le_of_mem_argmax hx htail).trans (not_lt.mp hle)⟩

/-- An element that divides the list in this way is found. -/
theorem argmax_of_split {before after : List A} (hbefore : ∀ x ∈ before, score x < score a)
    (hafter : ∀ x ∈ after, score x ≤ score a) :
    (before ++ a :: after).argmax score = some a := by
  induction before with
  | nil =>
    rw [List.nil_append, List.argmax_cons]
    cases h : after.argmax score with
    | none => rfl
    | some c => exact if_neg (not_lt.mpr (hafter c (List.argmax_mem h)))
  | cons head before ih =>
    obtain ⟨hhead, hbefore⟩ := List.forall_mem_cons.mp hbefore
    rw [List.cons_append, List.argmax_cons, ih hbefore]
    exact if_pos hhead

/-- The element that is found is also found among those that have a property it has. -/
theorem argmax_filter {p : A → Bool} (h : l.argmax score = some a) (ha : p a = true) :
    (l.filter p).argmax score = some a := by
  obtain ⟨before, after, rfl, hbefore, hafter⟩ := exists_split_of_argmax h
  rw [List.filter_append, List.filter_cons_of_pos ha]
  exact argmax_of_split (fun x hx => hbefore x (List.mem_of_mem_filter hx))
    fun x hx => hafter x (List.mem_of_mem_filter hx)

/-- Only the order of the scores matters. -/
theorem argmax_congr {C : Type*} [LinearOrder C] {other : A → C}
    (h : ∀ x ∈ l, ∀ y ∈ l, score x < score y ↔ other x < other y) :
    l.argmax score = l.argmax other := by
  cases hother : l.argmax other with
  | none => exact List.argmax_eq_none.mpr (List.argmax_eq_none.mp hother)
  | some a =>
    have ha : a ∈ l := List.argmax_mem hother
    obtain ⟨before, after, rfl, hbefore, hafter⟩ := exists_split_of_argmax hother
    refine argmax_of_split (fun x hx => ?_) fun x hx => ?_
    · exact (h x (by simp [hx]) a ha).mpr (hbefore x hx)
    · exact not_lt.mp fun hlt => not_lt.mpr (hafter x hx) ((h a ha x (by simp [hx])).mp hlt)

/-- The element that is found has a property exactly when every element without it is outscored by
one with it, strictly if that one comes later. -/
theorem argmax_satisfies_iff (score : A → B) (l : List A) (p : A → Prop) :
    (∀ a, l.argmax score = some a → p a) ↔
      ∀ before v after, l = before ++ v :: after → ¬ p v →
        (∃ a ∈ before, p a ∧ score v ≤ score a) ∨ ∃ a ∈ after, p a ∧ score v < score a := by
  constructor
  · rintro h before v after rfl hv
    obtain ⟨a, ha⟩ := Option.ne_none_iff_exists'.mp
      (List.argmax_eq_none.not.mpr (List.append_ne_nil_of_right_ne_nil before
        (List.cons_ne_nil v after)) : (before ++ v :: after).argmax score ≠ none)
    have hp : p a := h a ha
    have hle : score v ≤ score a := List.le_of_mem_argmax (by simp) ha
    obtain ⟨before', after', hsplit, hbefore', -⟩ := exists_split_of_argmax ha
    -- `a` stands before `v`, is `v`, or stands after it
    rcases List.append_eq_append_iff.mp hsplit with ⟨between, rfl, hrest⟩ | ⟨between, rfl, hrest⟩
    · cases between with
      | nil =>
        obtain rfl : v = a := (List.cons.inj hrest).1
        exact absurd hp hv
      | cons first between =>
        obtain ⟨rfl, rfl⟩ := List.cons.inj hrest
        exact .inr ⟨a, by simp, hp, hbefore' v (by simp)⟩
    · cases between with
      | nil =>
        obtain rfl : a = v := (List.cons.inj hrest).1
        exact absurd hp hv
      | cons first between =>
        obtain ⟨rfl, rfl⟩ := List.cons.inj hrest
        exact .inl ⟨a, by simp, hp, hle⟩
  · intro h a ha
    by_contra hv
    obtain ⟨before, after, hsplit, hbefore, hafter⟩ := exists_split_of_argmax ha
    rcases h before a after hsplit hv with ⟨x, hx, -, hle⟩ | ⟨x, hx, -, hlt⟩
    · exact absurd (hbefore x hx) (not_lt.mpr hle)
    · exact absurd hlt (not_lt.mpr (hafter x hx))

end Yoshino.Library
