import Yoshino.Display.Layout

/-!
# Who has the pipes

The two pipes after the VIG ones belong to the kernel, for the splash screen, and belong to no block.
`PostCommit` hands over the kernel's pipes of the primary display, but a search gives a block only pipes
of the user mode, so nothing is ever handed over and the kernel keeps its two pipes. Every other pipe
that has a block has one whose display is registered.
-/

namespace Yoshino.Display

open Yoshino.Library

variable {F : Type} [FloatArith F]

namespace ResourceDefault

variable {s : ResourceDefault} {info : HWResourceInfo}

/-- A change of every pipe that leaves a free one alone. -/
theorem srcPipe_map {f : SourcePipe → SourcePipe} (hf : f {} = {}) (k : Nat) :
    ({ s with srcPipes := s.srcPipes.map f } : ResourceDefault).srcPipe k = f (s.srcPipe k) := by
  simp only [srcPipe, List.getD_eq_getElem?_getD, List.getElem?_map]
  cases s.srcPipes[k]? with
  | none => exact hf.symm
  | some p => rfl

/-- Taking a pipe changes this pipe alone, and of it only the block. -/
theorem srcPipe_reserve (i k : Nat) (block : HWBlockType) :
    (s.reserve i block).srcPipe k = s.srcPipe k ∨
      (k = i ∧ (s.reserve i block).srcPipe k = (s.srcPipe k).giveTo block) := by
  simp only [srcPipe, reserve, List.getD_eq_getElem?_getD, List.getElem?_modify]
  cases s.srcPipes[k]? with
  | none => exact .inl rfl
  | some p =>
    by_cases hk : i = k
    · exact .inr ⟨hk.symm, by simp [hk]⟩
    · exact .inl (by simp [hk])

/-- A pipe that a release changes was a user-mode pipe of the block. -/
theorem srcPipe_release (block : HWBlockType) (k : Nat) :
    ((s.srcPipe k).reservedFor block = false ∧ (s.release block).srcPipe k = s.srcPipe k) ∨
      ((s.srcPipe k).reservedFor block = true ∧
        (s.release block).srcPipe k = (s.srcPipe k).resetState) := by
  have hmap : (s.release block).srcPipe k =
      if (s.srcPipe k).reservedFor block then (s.srcPipe k).resetState else s.srcPipe k :=
    srcPipe_map rfl k
  cases hreserved : (s.srcPipe k).reservedFor block with
  | true => exact .inr ⟨rfl, by rw [hmap, if_pos hreserved]⟩
  | false => exact .inl ⟨rfl, by rw [hmap, if_neg (by simp [hreserved])]⟩

/-- The kernel has the two pipes from a place on, and they belong to no block. -/
structure KernelKeeps (first : Nat) (s : ResourceDefault) : Prop where
  owner : ∀ k, (s.srcPipe k).owner = .kernelMode ↔ k = first ∨ k = first + 1
  free : ∀ k, (s.srcPipe k).owner = .kernelMode → (s.srcPipe k).hwBlockId = none

variable {first : Nat}

/-- A pipe of the kernel is not free, so it is not taken. -/
theorem KernelKeeps.reserve (h : s.KernelKeeps first) {i : Nat} (hfree : s.isFree i = true)
    (block : HWBlockType) : (s.reserve i block).KernelKeeps first where
  owner k := by
    obtain hk | ⟨-, hk⟩ := srcPipe_reserve i k block
    · rw [hk]
      exact h.owner k
    · rw [hk]
      exact h.owner k
  free k hkernel := by
    obtain hk | ⟨rfl, hk⟩ := srcPipe_reserve (s := s) i k block
    · rw [hk] at hkernel ⊢
      exact h.free k hkernel
    · have huser : (s.srcPipe k).owner = .userMode := by simp_all [isFree]
      rw [hk] at hkernel
      cases huser.symm.trans hkernel

/-- A release does not touch the pipes of the kernel. -/
theorem KernelKeeps.release (h : s.KernelKeeps first) (block : HWBlockType) :
    (s.release block).KernelKeeps first where
  owner k := by
    obtain ⟨-, hk⟩ | ⟨-, hk⟩ := srcPipe_release block k
    · rw [hk]
      exact h.owner k
    · rw [hk]
      exact h.owner k
  free k hkernel := by
    obtain ⟨-, hk⟩ | ⟨-, hk⟩ := srcPipe_release (s := s) block k
    · rw [hk] at hkernel ⊢
      exact h.free k hkernel
    · rw [hk]
      rfl

/-- There is nothing for `PostCommit` to hand over. -/
theorem KernelKeeps.handoff_eq (h : s.KernelKeeps first) (block : HWBlockType) :
    s.handoff block = s := by
  have hpipes : s.srcPipes.map (fun p =>
      if p.hwBlockId = some block && p.owner = .kernelMode then { p with owner := .userMode } else p) =
      s.srcPipes := by
    refine (List.map_congr_left fun p hp => ?_).trans (List.map_id _)
    obtain ⟨k, hk⟩ := List.mem_iff_getElem?.mp hp
    have hsrc : s.srcPipe k = p := by rw [srcPipe, List.getD_eq_getElem?_getD, hk, Option.getD_some]
    have hfree := h.free k
    rw [hsrc] at hfree
    refine if_neg fun hboth => ?_
    simp only [Bool.and_eq_true, decide_eq_true_eq] at hboth
    cases hboth.1.symm.trans (hfree hboth.2)
  unfold handoff
  rw [hpipes]

/-- No call takes its pipes from the kernel. -/
theorem KernelKeeps.step (h : s.KernelKeeps first) (e : ResourceEvent F) :
    (s.step e).KernelKeeps first :=
  step_rule (fun block _ _ hfree hs => hs.reserve hfree block) (fun block _ hs => hs.release block)
    (fun block _ hs => (hs.handoff_eq block).symm ▸ hs) (fun _ _ _ hs => ⟨hs.owner, hs.free⟩) h e

/-- No pipe of the layout has an owner other than the user mode, or a block. -/
theorem layout_bare {k : Nat} {p : SourcePipe} (hp : info.layout[k]? = some p) :
    p.owner = .userMode ∧ p.hwBlockId = none := by
  rw [← map_bare_layout, List.getElem?_map] at hp
  obtain ⟨q, -, rfl⟩ := Option.map_eq_some_iff.mp hp
  exact ⟨rfl, rfl⟩

/-- `Init` gives no pipe to a block. -/
theorem hwBlockId_init (hinfo : info.Consistent) (hinit : info.init = some s) (k : Nat) :
    (s.srcPipe k).hwBlockId = none := by
  obtain rfl := Option.some.inj ((init_eq hinfo).symm.trans hinit)
  simp only [srcPipe, List.getD_eq_getElem?_getD, List.getElem?_modify]
  cases hp : info.layout[k]? with
  | none => rfl
  | some p =>
    have hfree := (layout_bare hp).2
    by_cases hfirst : info.numVigPipe = k <;> by_cases hsecond : info.numVigPipe + 1 = k <;>
      simp [hfirst, hsecond, SourcePipe.keep, hfree]

/-- `Init` leaves the two pipes after the VIG ones to the kernel. -/
theorem kernelKeeps_init (hinfo : info.Consistent) (hinit : info.init = some s) :
    s.KernelKeeps info.numVigPipe := by
  refine ⟨fun k => ?_, fun k _ => hwBlockId_init hinfo hinit k⟩
  obtain rfl := Option.some.inj ((init_eq hinfo).symm.trans hinit)
  have hlength := length_layout hinfo
  have hnum := hinfo.numPipe
  have hafter := hinfo.afterVig
  simp only [srcPipe, List.getD_eq_getElem?_getD, List.getElem?_modify]
  cases hp : info.layout[k]? with
  | none =>
    have hk := List.getElem?_eq_none_iff.mp hp
    simp
    omega
  | some p =>
    have howner := (layout_bare hp).1
    by_cases hfirst : info.numVigPipe = k
    · simp [hfirst, SourcePipe.keep]
    · by_cases hsecond : info.numVigPipe + 1 = k
      · simp [hsecond, SourcePipe.keep]
      · simp [hfirst, hsecond, howner]
        omega

/-- A pipe has the block of a registered display, and a display is registered under its own block. -/
structure Held (s : ResourceDefault) : Prop where
  registered : ∀ k block, (s.srcPipe k).hwBlockId = some block → (s.contexts block).isSome
  context : ∀ block ctx, s.contexts block = some ctx → ctx.hwBlockId = block

/-- A release gives pipes back, and the others still belong to registered displays. -/
theorem Held.release (h : s.Held) (block : HWBlockType) : (s.release block).Held where
  registered k b hb := by
    obtain ⟨-, hk⟩ | ⟨-, hk⟩ := srcPipe_release (s := s) block k
    · rw [hk] at hb
      exact h.registered k b hb
    · rw [hk] at hb
      cases hb
  context := h.context

/-- A pipe is taken for a registered display. -/
theorem Held.reserve (h : s.Held) {block : HWBlockType} (hblock : (s.contexts block).isSome) (i : Nat) :
    (s.reserve i block).Held where
  registered k b hb := by
    obtain hk | ⟨-, hk⟩ := srcPipe_reserve (s := s) i k block
    · rw [hk] at hb
      exact h.registered k b hb
    · rw [hk] at hb
      obtain rfl : block = b := Option.some.inj hb
      exact hblock
  context := h.context

/-- A new context for a block. -/
theorem Held.setContext (h : s.Held) (ctx : DisplayResourceContext) :
    (s.setContext ctx.hwBlockId (some ctx)).Held where
  registered k b hb := by
    have hregistered := h.registered k b hb
    unfold ResourceDefault.setContext
    dsimp only
    split
    · rfl
    · exact hregistered
  context b ctx' hctx := by
    unfold ResourceDefault.setContext at hctx
    dsimp only at hctx
    split at hctx
    next hb => exact Option.some.inj hctx ▸ hb.symm
    · exact h.context b ctx' hctx

/-- A display that is no longer registered has given back its pipes: what it had in the user mode is
released, and the kernel's pipes have no block. -/
theorem Held.unregister (h : s.Held) (hkernel : s.KernelKeeps first) (block : HWBlockType) :
    ((s.release block).setContext block none).Held where
  registered k b hb := by
    have hb : ((s.release block).srcPipe k).hwBlockId = some b := hb
    have hregistered := (h.release block).registered k b hb
    unfold ResourceDefault.setContext
    dsimp only
    split
    next hblock =>
      subst hblock
      obtain ⟨hother, hk⟩ | ⟨-, hk⟩ := srcPipe_release (s := s) b k
      · rw [hk] at hb
        have howner : (s.srcPipe k).owner = .kernelMode := by
          cases howner : (s.srcPipe k).owner with
          | kernelMode => rfl
          | userMode => simp [SourcePipe.reservedFor, hb, howner] at hother
        cases (hkernel.free k howner).symm.trans hb
      · rw [hk] at hb
        cases hb
    · exact hregistered
  context b ctx hctx := by
    unfold ResourceDefault.setContext at hctx
    dsimp only at hctx
    split at hctx
    · cases hctx
    · exact h.context b ctx hctx

/-- Every call keeps pipes with registered displays. -/
theorem Held.step (h : s.Held) (hkernel : s.KernelKeeps first) (e : ResourceEvent F) :
    (s.step e).Held := by
  cases e with
  | registerDisplay type mixer =>
    unfold ResourceDefault.step
    dsimp only
    obtain ⟨error, hrefused⟩ | ⟨block, -, hregistered⟩ := registerDisplay_cases s type mixer
    · rw [hrefused]
      exact h
    · rw [hregistered]
      exact h.setContext { hwBlockId := block, mixerAttributes := mixer }
  | unregisterDisplay block => exact call_rule h block fun ctx _ => h.unregister hkernel ctx.hwBlockId
  | reconfigureDisplay block mixer =>
    exact call_rule h block fun ctx _ => h.setContext { ctx with mixerAttributes := mixer }
  | prepare block layers c =>
    refine call_rule h block fun ctx hctx => ?_
    -- the contexts stay, so the display stays registered while its pipes are taken
    have hregistered : (s.contexts ctx.hwBlockId).isSome := by
      rw [h.context block ctx hctx, hctx]
      rfl
    let inv (t : ResourceDefault) : Prop := t.contexts = s.contexts ∧ t.Held
    have hboth : inv (s.prepare ctx layers c).resource :=
      prepare_rule (fun t i _ ht => ⟨ht.1, ht.2.reserve (ht.1 ▸ hregistered) i⟩)
        (fun t ht => ⟨ht.1, ht.2.release ctx.hwBlockId⟩) ⟨rfl, h⟩ rfl layers c
    exact hboth.2
  | postCommit block =>
    refine call_rule h block fun ctx _ => ?_
    unfold ResourceDefault.postCommit
    rw [hkernel.handoff_eq, ite_self]
    exact h.setContext { ctx with frameCount := ctx.frameCount + 1 }
  | purge block => exact call_rule h block fun ctx _ => h.release ctx.hwBlockId

/-- At the start no pipe belongs to a display. -/
theorem held_init (hinfo : info.Consistent) (hinit : info.init = some s) : s.Held := by
  refine ⟨fun k block hblock => ?_, fun block ctx hctx => ?_⟩
  · cases (hwBlockId_init hinfo hinit k).symm.trans hblock
  · obtain rfl := Option.some.inj ((init_eq hinfo).symm.trans hinit)
    cases hctx

/-- In every run the kernel keeps its two pipes, and a pipe that has a block has one whose display is
registered. -/
theorem run_owners (hinfo : info.Consistent) (hinit : info.init = some s)
    (events : List (ResourceEvent F)) :
    (Library.run ResourceDefault.step s events).KernelKeeps info.numVigPipe ∧
      (Library.run ResourceDefault.step s events).Held :=
  run_invariant_of_step (fun t => t.KernelKeeps info.numVigPipe ∧ t.Held)
    (fun _ e ht => ⟨ht.1.step e, ht.2.step ht.1 e⟩) s events
    ⟨kernelKeeps_init hinfo hinit, held_init hinfo hinit⟩

end ResourceDefault

end Yoshino.Display
