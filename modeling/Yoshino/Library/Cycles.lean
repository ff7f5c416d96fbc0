import Mathlib.Data.Fintype.Card
import Mathlib.Data.Set.Finite.Basic
import Mathlib.Logic.Relation

/-!
# Chains that end

In a relation with finitely many elements that have a successor, every chain from an element ends
exactly when no cycle can be reached from it.
-/

namespace Yoshino.Library

open Relation

variable {A : Type*} {r : A → A → Prop}

/-- An accessible element is not related to itself. -/
theorem not_rel_self_of_acc {a : A} (h : Acc r a) : ¬ r a a := by
  induction h with
  | intro a _ ih => exact fun hself => ih a hself hself

/-- An element whose chains end reaches no cycle. -/
theorem not_cycle_of_acc {a b : A} (h : Acc (fun b a => r a b) a) (hreach : ReflTransGen r a b) :
    ¬ TransGen r b b := by
  have hb : Acc (fun b a => r a b) b := by
    induction hreach with
    | refl => exact h
    | tail _ hstep ih => exact ih.inv hstep
  intro hcycle
  exact not_rel_self_of_acc hb.transGen (transGen_swap.mpr hcycle)

/-- The chains of an element that reaches no cycle end. -/
theorem acc_of_not_cycle (hfinite : {a | ∃ b, r a b}.Finite) {a : A}
    (h : ∀ b, ReflTransGen r a b → ¬ TransGen r b b) : Acc (fun b a => r a b) a := by
  let S := {b : A // ReflTransGen r a b ∧ ∃ c, r b c}
  have : Finite S := hfinite.subset (s := {a | ∃ b, r a b}) fun b hb => hb.2
  have : IsTrans S fun x y => TransGen r y.1 x.1 := ⟨fun _ _ _ hxy hyz => hyz.trans hxy⟩
  have : Std.Irrefl fun x y : S => TransGen r y.1 x.1 := ⟨fun x => h x.1 x.2.1⟩
  have hwf : WellFounded fun x y : S => TransGen r y.1 x.1 :=
    Finite.wellFounded_of_trans_of_irrefl _
  have hreached (b : A) (hreach : ReflTransGen r a b) (hnext : ∃ c, r b c) :
      Acc (fun b a => r a b) b := by
    suffices ∀ x : S, Acc (fun b a => r a b) x.1 from this ⟨b, hreach, hnext⟩
    intro x
    induction x using hwf.induction with
    | h x ih =>
      refine Acc.intro _ fun c hc => ?_
      by_cases hlast : ∃ d, r c d
      · exact ih ⟨c, x.2.1.tail hc, hlast⟩ (.single hc)
      · exact Acc.intro _ fun d hd => absurd ⟨d, hd⟩ hlast
  by_cases hnext : ∃ c, r a c
  · exact hreached a .refl hnext
  · exact Acc.intro _ fun c hc => absurd ⟨c, hc⟩ hnext

end Yoshino.Library
