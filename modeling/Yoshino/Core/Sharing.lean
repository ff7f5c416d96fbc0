import Yoshino.Core.DisplayBase
import Yoshino.Display.PipeOwners
import Yoshino.Display.PipeReservation

/-!
# What a display leaves to the others

Each display has its context in the composition manager, and its block with the pipes in the resource
manager. A call for one display makes calls of the resource manager for its own block only, and these
leave the pipes and the context of every other block alone.
-/

namespace Yoshino.Display

variable {F : Type} [FloatArith F]

/-- The block that a call of the resource manager is about. -/
def ResourceEvent.block {F : Type} : ResourceEvent F → Option HWBlockType
  | .registerDisplay type _ => type.block
  | .unregisterDisplay block | .reconfigureDisplay block _ | .prepare block _ _ | .postCommit block
  | .purge block => some block

namespace ResourceDefault

variable {info : HWResourceInfo} {s s' s'' : ResourceDefault} {block other : HWBlockType}

/-- What is known of the pipes in every run. -/
structure Sound (info : HWResourceInfo) (s : ResourceDefault) : Prop where
  laidOut : s.LaidOut info
  kernel : s.KernelKeeps info.numVigPipe
  held : s.Held

/-- One call of the resource manager keeps the pipes sound. -/
theorem Sound.step (h : s.Sound info) (e : ResourceEvent F) : (s.step e).Sound info :=
  ⟨h.laidOut.step e, h.kernel.step e, h.held.step h.kernel e⟩

/-- Two states are the same for a block. -/
structure SameFor (block : HWBlockType) (s s' : ResourceDefault) : Prop where
  reserved : s'.reserved block = s.reserved block
  contexts : s'.contexts block = s.contexts block

/-- A state is the same as itself. -/
theorem SameFor.refl : SameFor block s s := ⟨rfl, rfl⟩

/-- Two steps that leave a block alone. -/
theorem SameFor.trans (hfirst : SameFor block s s') (hsecond : SameFor block s' s'') :
    SameFor block s s'' :=
  ⟨hsecond.reserved.trans hfirst.reserved, hsecond.contexts.trans hfirst.contexts⟩

/-- Releasing the pipes of one block leaves the others alone. -/
theorem sameFor_release (hne : other ≠ block) : SameFor block s (s.release other) := by
  refine ⟨?_, rfl⟩
  have hkept (p : SourcePipe) (hp : p.reservedFor block = true) : p.reservedFor other = false := by
    simp only [SourcePipe.reservedFor, Bool.and_eq_true, decide_eq_true_eq] at hp
    simp [SourcePipe.reservedFor, hp.1, hne.symm]
  have hfilter : SourcePipe.reservedFor block ∘
      (fun p => if p.reservedFor other then p.resetState else p) = SourcePipe.reservedFor block := by
    funext p
    simp only [Function.comp_apply]
    split
    next hother =>
      have hnot : p.reservedFor block = false := by
        by_contra hp
        simp [hkept p (by simpa using hp)] at hother
      rw [hnot]
      simp [SourcePipe.reservedFor, SourcePipe.resetState]
    · rfl
  rw [reserved, release, List.filter_map, hfilter, ← reserved]
  refine (List.map_congr_left fun p hp => ?_).trans (List.map_id _)
  rw [if_neg (by simp [hkept p (List.mem_filter.mp hp).2])]
  rfl

/-- A free pipe belongs to no block, so reserving it leaves the other blocks alone. -/
theorem sameFor_reserve {i : Nat} (hfree : s.isFree i = true) (hne : other ≠ block) :
    SameFor block s (s.reserve i other) := by
  refine ⟨?_, rfl⟩
  by_cases hi : i < s.srcPipes.length
  · obtain ⟨before, p, after, hpipes, hlength, hgive⟩ := List.exists_of_modify (SourcePipe.giveTo other) hi
    have hp : s.srcPipe i = p := by
      rw [srcPipe, hpipes, ← hlength]
      simp
    have hfirst : p.reservedFor block = false := by
      have hblock : p.hwBlockId = none := by
        simp only [isFree, hp, Bool.and_eq_true, decide_eq_true_eq] at hfree
        exact hfree.2
      simp [SourcePipe.reservedFor, hblock]
    have hsecond : (p.giveTo other).reservedFor block = false := by
      simp [SourcePipe.reservedFor, SourcePipe.giveTo, hne]
    rw [reserved, reserve, hgive, reserved, hpipes, List.filter_append, List.filter_append,
      List.filter_cons_of_neg (by simp [hsecond]), List.filter_cons_of_neg (by simp [hfirst])]
  · rw [reserved, reserve, List.modify_eq_self (Nat.not_lt.mp hi), reserved]

/-- The context of one block is none of the others. -/
theorem sameFor_setContext (hne : other ≠ block) (ctx : Option DisplayResourceContext) :
    SameFor block s (s.setContext other ctx) := by
  refine ⟨rfl, ?_⟩
  rw [setContext]
  exact if_neg hne.symm

/-- A call for one block leaves the others alone. -/
theorem Sound.sameFor_step (h : s.Sound info) {e : ResourceEvent F} (hne : e.block ≠ some block) :
    SameFor block s (s.step e) := by
  have hcontext {b : HWBlockType} {ctx : DisplayResourceContext} (hb : some b ≠ some block)
      (hctx : s.contexts b = some ctx) : ctx.hwBlockId ≠ block := by
    rw [h.held.context b ctx hctx]
    exact fun heq => hb (congrArg some heq)
  cases e with
  | registerDisplay type mixer =>
    rw [ResourceDefault.step, registerDisplay]
    cases htype : type.block with
    | none => exact .refl
    | some b =>
      have hb : b ≠ block := fun heq => hne (by rw [ResourceEvent.block, htype, heq])
      dsimp only
      by_cases hused : (s.contexts b).isSome
      · rw [if_pos hused]
        exact .refl
      · rw [if_neg hused]
        exact sameFor_setContext hb _
  | unregisterDisplay b =>
    refine call_rule .refl b fun ctx hctx => (sameFor_release (hcontext hne hctx)).trans ?_
    exact sameFor_setContext (hcontext hne hctx) none
  | reconfigureDisplay b mixer =>
    exact call_rule .refl b fun ctx hctx => sameFor_setContext (hcontext hne hctx) _
  | prepare b layers c =>
    refine call_rule .refl b fun ctx hctx => ?_
    have hb := hcontext hne hctx
    exact prepare_rule (fun t i hfree ht => ht.trans (sameFor_reserve hfree hb))
      (fun t ht => ht.trans (sameFor_release hb)) .refl rfl layers c
  | postCommit b =>
    refine call_rule .refl b fun ctx hctx => ?_
    rw [postCommit, h.kernel.handoff_eq, ite_self]
    exact sameFor_setContext (hcontext hne hctx) _
  | purge b => exact call_rule .refl b fun ctx hctx => sameFor_release (hcontext hne hctx)

/-- Calls of the resource manager for one display lead from one state to the other. -/
abbrev CallsOf (F : Type) [FloatArith F] (type : DisplayType) : ResourceDefault → ResourceDefault → Prop :=
  Relation.ReflTransGen fun s s' => ∃ e : ResourceEvent F, e.block = type.block ∧ s' = s.step e

/-- Any number of calls for one display. -/
theorem Sound.callsOf {type : DisplayType} (h : s.Sound info) (hcalls : CallsOf F type s s') :
    s'.Sound info := by
  induction hcalls with
  | refl => exact h
  | tail _ hstep ih =>
    obtain ⟨e, -, rfl⟩ := hstep
    exact ih.step e

/-- The calls for one display leave the blocks of the others alone. -/
theorem Sound.sameFor_callsOf {type : DisplayType} (h : s.Sound info) (hcalls : CallsOf F type s s')
    (hne : type.block ≠ some block) : SameFor block s s' := by
  induction hcalls with
  | refl => exact .refl
  | tail hbefore hstep ih =>
    obtain ⟨e, he, rfl⟩ := hstep
    exact ih.trans ((h.callsOf hbefore).sameFor_step (by rwa [he]))

/-- `Prepare` writes no context. -/
theorem contexts_prepare (ctx : DisplayResourceContext) (layers : List (Layer F)) (c : HWLayerConfig F) :
    (s.prepare ctx layers c).resource.contexts = s.contexts := by
  let inv (t : ResourceDefault) : Prop := t.contexts = s.contexts
  have h : inv (s.prepare ctx layers c).resource :=
    prepare_rule (fun _ _ _ ht => ht) (fun _ ht => ht) (show inv s from rfl) rfl layers c
  exact h

/-- A preparation is a call for the display of its block. -/
theorem callsOf_prepare {type : DisplayType} {ctx : DisplayResourceContext} (hblock : type.block = some block)
    (hctx : s.contexts block = some ctx) (layers : List (Layer F)) (c : HWLayerConfig F) :
    CallsOf F type s (s.prepare ctx layers c).resource := by
  refine .single ⟨.prepare block layers c, hblock.symm, ?_⟩
  rw [ResourceDefault.step, call, hctx]

end ResourceDefault

namespace CompManager

open ResourceDefault

variable {m m' : CompManager} {type : DisplayType}

/-- A request of the composition manager that is passed on is a call for its display. -/
theorem callsOf_onResource {f : DisplayResourceContext → ResourceDefault}
    (e : HWBlockType → ResourceEvent F) (hblock : ∀ b, (e b).block = some b)
    (hstep : ∀ b, m.resource.step (e b) = m.resource.call b f) :
    CallsOf F type m.resource (m.onResource type f).resource := by
  cases htype : type.block with
  | none =>
    rw [onResource, resourceContext, htype]
    exact .refl
  | some b =>
    refine .single ⟨e b, (hblock b).trans htype.symm, ?_⟩
    rw [hstep, onResource, resourceContext, htype, Option.bind_some, call]
    cases m.resource.contexts b <;> rfl

/-- `RegisterDisplay` calls the resource manager for its own display only. -/
theorem callsOf_registerDisplay {panel : HWPanelInfo} {mixer : HWMixerAttributes}
    {fbConfig : FrameBufferConfig} (h : m.registerDisplay type panel mixer fbConfig = .ok m') :
    CallsOf F type m.resource m'.resource := by
  rw [registerDisplay] at h
  cases hresource : m.resource.registerDisplay type mixer with
  | error e => simp [hresource] at h
  | ok resource =>
    rw [hresource] at h
    obtain rfl := Except.ok.inj h
    refine .single ⟨.registerDisplay type mixer, rfl, ?_⟩
    rw [ResourceDefault.step, hresource]
    dsimp only
    split <;> rfl

/-- `UnregisterDisplay` calls the resource manager for its own display only. -/
theorem callsOf_unregisterDisplay : CallsOf F type m.resource (m.unregisterDisplay type).resource :=
  callsOf_onResource .unregisterDisplay (fun _ => rfl) (fun _ => rfl)

/-- `ReconfigureDisplay` calls the resource manager for its own display only. -/
theorem callsOf_reconfigureDisplay (panel : HWPanelInfo) (mixer : HWMixerAttributes) :
    CallsOf F type m.resource (m.reconfigureDisplay type panel mixer).resource :=
  callsOf_onResource (.reconfigureDisplay · mixer) (fun _ => rfl) (fun _ => rfl)

/-- `Purge` calls the resource manager for its own display only. -/
theorem callsOf_purge (h : m.purge type = some m') : CallsOf F type m.resource m'.resource := by
  obtain ⟨_, -, rfl⟩ := Option.map_eq_some_iff.mp h
  exact callsOf_onResource .purge (fun _ => rfl) (fun _ => rfl)

end CompManager

end Yoshino.Display
