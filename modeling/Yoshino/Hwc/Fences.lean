import Yoshino.Hwc.Descriptors
import Yoshino.Hwc.SessionSound

/-!
# Every descriptor is spent once

A descriptor that is closed twice may be somebody else's by then. Fences and buffers wander through the
layers, the client target, the fill and the stack, and some are lost on the way when a commit fails or a
layer is turned into a fill. But over every run, what was closed, what was handed to the client and what
is still held is at most what was received, descriptor by descriptor. As the whole model, this is about
displays without a frame dump and without tone mapping: a dump hands an acquire fence to `MapBuffer`,
which closes it, and keeps it in the layer when the mapping fails.
-/

namespace Yoshino.Hwc

open Yoshino.Display (DisplayType FloatArith)

variable {F : Type} [FloatArith F]

/-- All that has to do with descriptors. -/
structure Purse where
  ledger : Ledger
  target : List Int
  layerSet : List LayerId
  layers : LayerId → List Int
  fill : List Int
  retire : Int

namespace Composer

/-- The descriptors of a display. -/
def purse (h : Composer F) : Purse where
  ledger := h.ledger
  target := h.display.clientTarget.held
  layerSet := h.display.layerSet
  layers := h.display.layers.held
  fill := h.display.solidFillLayer.elim [] fun fill => [fill.inputBuffer.releaseFenceFd]
  retire := h.display.layerStack.retireFenceFd

/-- No more of a descriptor is spent or held than there was before, but for what was received. -/
def Pays (fd : Int) (h h' : Composer F) : Prop :=
  h'.ledger.spent fd + h'.display.held.count fd + h.ledger.received.count fd ≤
    h.ledger.spent fd + h.display.held.count fd + h'.ledger.received.count fd

variable {h h' h'' : Composer F} {fd : Int}

/-- Two steps that pay for what they spend. -/
theorem Pays.trans (hfirst : Pays fd h h') (hsecond : Pays fd h' h'') : Pays fd h h'' := by
  simp only [Pays] at *
  omega

/-- What a display holds, by the places in which it holds it. -/
theorem count_purse : h.display.held.count fd = h.purse.target.count fd +
    (h.purse.layerSet.flatMap h.purse.layers).count fd + h.purse.fill.count fd +
      [h.purse.retire].count fd := by
  simp only [HwcDisplay.held, List.count_append]
  rfl

/-- A step that leaves the descriptors alone pays. -/
theorem Pays.of_purse (hpurse : h'.purse = h.purse) : Pays fd h h' := by
  have hledger : h'.ledger = h.ledger := congrArg Purse.ledger hpurse
  rw [Pays, count_purse, count_purse, hpurse, hledger]

/-- The books of a display, as the loops need them. -/
theorem number_of_books (hbooks : h.outline.Books) (ids : List LayerId) (id : LayerId) (_hid : id ∈ ids)
    (l : HwcLayer F) (hl : h.display.layers id = some l) : l.id = id :=
  hbooks.number id (l.id, l.z) (by simp [outline, Layers.marks, hl])

/-- The set has each layer once. -/
theorem nodup_of_books (hbooks : h.outline.Books) : h.display.layerSet.Nodup := hbooks.nodup

section Validating

/-- Composition by the client leaves the descriptors. -/
theorem markLayersForClientComposition_purse (hres : h.markLayersForClientComposition = some h') :
    h'.purse = h.purse := by
  obtain ⟨layers, hloop, heq⟩ := Option.bind_eq_some_iff.mp hres
  obtain rfl := Option.some.inj heq
  simp [purse, mapLayers_held hloop fun _ => rfl]

/-- The bypass leaves the descriptors. -/
theorem markLayersForGPUBypass_purse (hres : h.markLayersForGPUBypass = some h') :
    h'.purse = h.purse := by
  obtain ⟨layers, hloop, heq⟩ := Option.bind_eq_some_iff.mp hres
  obtain rfl := Option.some.inj heq
  simp [purse, mapLayers_held hloop fun _ => rfl]

/-- A secure session leaves the descriptors. -/
theorem setSecureDisplay_purse (active : Bool) : (h.setSecureDisplay active).purse = h.purse := by
  rw [setSecureDisplay]
  split
  · rfl
  · split <;> rfl

/-- The test for ten bits leaves the descriptors. -/
theorem composeTenBit_purse (hres : h.composeTenBit = some h') : h'.purse = h.purse := by
  rw [composeTenBit] at hres
  split at hres
  · exact markLayersForClientComposition_purse hres
  · rw [Option.some.inj hres]

/-- A failed colour transform leaves the descriptors. -/
theorem composeFailedTransform_purse (hres : h.composeFailedTransform = some h') : h'.purse = h.purse := by
  rw [composeFailedTransform] at hres
  split at hres
  · exact markLayersForClientComposition_purse hres
  · rw [Option.some.inj hres]

/-- A stack pays if the loop over its layers does. -/
theorem stacked_pays (hfd : 0 ≤ fd) {layers : Layers F} {b : HwcDisplay.Build F}
    (hcount : b.closed.count fd + (h.display.layerSet.flatMap layers.held).count fd ≤
      (h.display.layerSet.flatMap h.display.layers.held).count fd) : Pays fd h (h.stacked layers b) := by
  rw [Pays, count_purse, count_purse]
  simp only [purse, stacked, Ledger.spent_add, Ledger.received_add, count_minus_one hfd]
  simp only [Ledger.spent, List.count_nil]
  omega

/-- `BuildLayerStack` closes the acquire fences for which nobody waits, once each. -/
theorem buildLayerStack_pays (hfd : 0 ≤ fd) (hbooks : h.outline.Books) {scan : Frame → Frame}
    (hres : h.buildLayerStack scan = some h') : Pays fd h h' := by
  obtain ⟨⟨layers, b⟩, hloop, hrest⟩ := Option.bind_eq_some_iff.mp hres
  obtain ⟨h₁, hten, heq⟩ := Option.bind_eq_some_iff.mp hrest
  obtain rfl := Option.some.inj heq
  have hcount := forLayers_spend (fun b : HwcDisplay.Build F => b.closed.count fd)
    (fun b l => count_buildLayer l hfd h.display scan b) (number_of_books hbooks _)
    (nodup_of_books hbooks) hloop
  have hstacked : Pays fd h (h.stacked layers b) := stacked_pays hfd (by simpa using hcount)
  refine hstacked.trans (.of_purse ?_)
  exact (setSecureDisplay_purse _).trans (composeTenBit_purse hten)

/-- A fill keeps no descriptors of the frame before. -/
theorem solidFillPrepare_pays (hfd : 0 ≤ fd) {width height color : UInt32}
    (hres : h.solidFillPrepare width height color = some h') : Pays fd h h' := by
  have hsmall {p : Composer F} (hledger : p.ledger = h.ledger) (htarget : p.purse.target = h.purse.target)
      (hset : p.purse.layerSet = h.purse.layerSet) (hlayers : p.purse.layers = h.purse.layers)
      (hfill : p.purse.fill.count fd = 0) (hretire : [p.purse.retire].count fd ≤ [h.purse.retire].count fd) :
      Pays fd h p := by
    rw [Pays, count_purse, count_purse, hledger, htarget, hset, hlayers, hfill]
    omega
  rw [solidFillPrepare] at hres
  split at hres
  · refine Pays.trans ?_ (.of_purse (markLayersForGPUBypass_purse hres))
    refine hsmall rfl rfl rfl rfl (count_minus_one hfd) ?_
    exact (count_minus_one hfd).trans_le (Nat.zero_le _)
  · obtain rfl := Option.some.inj hres
    exact hsmall rfl rfl rfl rfl rfl le_rfl

/-- The answer to a validation leaves the descriptors. -/
theorem prepare_purse {answer : Prepared} (hres : h.prepare answer = some h') : h'.purse = h.purse := by
  obtain ⟨layers, hloop, heq⟩ := Option.bind_eq_some_iff.mp hres
  obtain rfl := Option.some.inj heq
  simp [purse, mapLayers_held hloop fun _ => rfl, HwcLayer.held]

/-- Collecting the changes leaves the descriptors. -/
theorem collectChanges_purse {error : Error} (hres : h.collectChanges = some (h', error)) :
    h'.purse = h.purse := by
  obtain ⟨⟨layers, changes, requests⟩, hloop, heq⟩ := Option.bind_eq_some_iff.mp hres
  obtain ⟨rfl, -⟩ := Prod.mk.inj (Option.some.inj heq)
  have hheld : layers.held = h.display.layers.held := forLayers_held hloop fun _ _ => rfl
  simp [purse, hheld, HwcLayer.resetValidation, HwcLayer.held]

/-- The error of the display core leaves the descriptors. -/
theorem afterPrepare_purse {error : DisplayError} {result : Error}
    (hres : h.afterPrepare error = some (h', result)) : h'.purse = h.purse := by
  cases error with
  | none => exact collectChanges_purse (h := { h with validated := insert h.display.type h.validated }) hres
  | permission | shutDown | notValidated | other =>
    obtain ⟨rfl, -⟩ := Prod.mk.inj (Option.some.inj hres)
    rfl

/-- `PrepareLayerStack` leaves the descriptors. -/
theorem prepareLayerStack_purse {answer : Prepared} {error : Error}
    (hres : h.prepareLayerStack answer = some (h', error)) : h'.purse = h.purse := by
  simp only [prepareLayerStack] at hres
  split at hres
  · obtain ⟨rfl, -⟩ := Prod.mk.inj (Option.some.inj hres)
    rfl
  · split at hres
    · obtain ⟨h₁, hmark, hcollect⟩ := Option.bind_eq_some_iff.mp hres
      calc
        h'.purse = h₁.skipPrepared.purse := collectChanges_purse hcollect
        _ = h₁.purse := rfl
        _ = h.clearChanges.purse := markLayersForGPUBypass_purse hmark
    · obtain ⟨h₁, hprepare, hafter⟩ := Option.bind_eq_some_iff.mp hres
      calc
        h'.purse = h₁.purse := afterPrepare_purse hafter
        _ = h.clearChanges.purse := prepare_purse hprepare

/-- The end of `Validate` of the primary display leaves the descriptors. -/
theorem finishPrimary_purse {answer : Prepared} {error : Error}
    (hres : h.finishPrimary answer = some (h', error)) : h'.purse = h.purse := by
  rw [finishPrimary] at hres
  split at hres
  · obtain ⟨rfl, -⟩ := Prod.mk.inj (Option.some.inj hres)
    rfl
  · exact prepareLayerStack_purse hres

/-- The end of `Validate` of the other displays leaves the descriptors. -/
theorem finishOther_purse {answer : Prepared} {flush : Bool} {error : Error}
    (hres : h.finishOther answer flush = some (h', error)) : h'.purse = h.purse := by
  rw [finishOther] at hres
  split at hres
  · obtain ⟨rfl, -⟩ := Prod.mk.inj (Option.some.inj hres)
    rfl
  · exact prepareLayerStack_purse hres

/-- A validation that is bypassed leaves the descriptors. -/
theorem bypass_purse {error : Error} (hres : h.bypass = some (h', error)) : h'.purse = h.purse := by
  obtain ⟨h₁, hmark, heq⟩ := Option.map_eq_some_iff.mp hres
  obtain ⟨rfl, -⟩ := Prod.mk.inj heq
  exact markLayersForGPUBypass_purse hmark

/-- `Validate` pays. -/
theorem validate_pays (hfd : 0 ≤ fd) (hbooks : h.outline.Books) {v : Validation} {error : Error}
    (hres : h.validate v = some (h', error)) : Pays fd h h' := by
  -- The other displays: the stack is built, and then validated if it has layers.
  have hother (flush : Composer F → Bool) (hres : ((h.buildLayerStack v.scan).bind fun h =>
      h.finishOther v.prepared (flush h)) = some (h', error)) : Pays fd h h' := by
    obtain ⟨h₁, hbuild, hfinish⟩ := Option.bind_eq_some_iff.mp hres
    exact (buildLayerStack_pays hfd hbooks hbuild).trans (.of_purse (finishOther_purse hfinish))
  rw [validate] at hres
  split at hres
  · rw [validatePrimary] at hres
    split at hres
    · exact .of_purse (bypass_purse hres)
    · obtain ⟨h₁, hbuild, hres⟩ := Option.bind_eq_some_iff.mp hres
      obtain ⟨h₂, hcompose, hres⟩ := Option.bind_eq_some_iff.mp hres
      obtain ⟨h₃, hfill, hfinish⟩ := Option.bind_eq_some_iff.mp hres
      have hcomposed : Pays fd h₁ h₂ := .of_purse (composeFailedTransform_purse hcompose)
      have hchosen : Pays fd h₃ (h₃.chooseRefreshRate v.refreshRateAccepted) := .of_purse rfl
      have hfilled : Pays fd h h₃ :=
        ((buildLayerStack_pays hfd hbooks hbuild).trans hcomposed).trans (solidFillPrepare_pays hfd hfill)
      exact (hfilled.trans hchosen).trans (.of_purse (finishPrimary_purse hfinish))
  · rw [validateExternal] at hres
    split at hres
    · exact .of_purse (bypass_purse hres)
    · exact hother _ hres
  · rw [validateVirtual] at hres
    split at hres
    · exact .of_purse (bypass_purse hres)
    · exact hother (fun h => h.display.flush) hres

end Validating

section Presenting

/-- The numbers in a stack that may be committed are those of the display, or there are none. -/
theorem ids_cases (hready : h.Ready) :
    h.display.layerStack.ids.Perm h.display.layerSet ∨ h.display.layerStack.ids = [] := by
  obtain hplain | ⟨hstack, -⟩ := hready.current
  · have hperm := hplain.filterMap StackLayer.client
    have hids : (h.display.layerSet.map StackLayer.layer).filterMap StackLayer.client = h.display.layerSet := by
      rw [List.filterMap_map]
      exact List.filterMap_some
    have htarget : [StackLayer.clientTarget].filterMap StackLayer.client = [] := rfl
    rw [List.filterMap_append, htarget] at hperm
    exact .inl (by simpa [outline, hids, LayerStack.ids] using hperm)
  · have hlayers : h.display.layerStack.layers = [.solidFill, .clientTarget] := hstack
    exact .inr (by simp [LayerStack.ids, hlayers, StackLayer.client])

/-- Descriptors counted one by one are counted in the list. -/
theorem sum_count_eq {β : Type} (g : β → Int) (xs : List β) :
    (xs.map fun x => [g x].count fd).sum = (xs.map g).count fd := by
  induction xs with
  | nil => rfl
  | cons x xs ih => rw [List.map_cons, List.sum_cons, ih, List.map_cons, count_cons_eq _ (xs.map g)]

/-- The layers hold what they held and the fences that a commit brings. -/
theorem commit_layers (fd : Int) (hready : h.Ready) {answer : Committed} {layers : Layers F}
    (hloop : mapLayers (fun l => { l with layer := { l.layer with
      inputBuffer := { l.layer.inputBuffer with releaseFenceFd := answer.releaseFence l.id } } })
      h.display.layerStack.ids h.display.layers = some layers) :
    (h.display.layerSet.flatMap layers.held).count fd ≤
      (h.display.layerSet.flatMap h.display.layers.held).count fd +
        (h.display.layerStack.ids.map answer.releaseFence).count fd := by
  obtain ⟨⟨layers, a⟩, hfor, rfl⟩ := Option.map_eq_some_iff.mp hloop
  obtain hperm | hempty := ids_cases hready
  · have hcount := forLayers_count fd (fun _ => 0) (fun id => [answer.releaseFence id].count fd)
      (fun _ l => by simp only [HwcLayer.count_held]; omega) (number_of_books hready.books _)
      (hperm.nodup_iff.mpr (nodup_of_books hready.books)) hfor
    rw [sum_count_eq, (hperm.flatMap_right _).count_eq, (hperm.flatMap_right _).count_eq] at hcount
    simpa using hcount
  · rw [hempty] at hfor
    obtain ⟨rfl, -⟩ := Prod.mk.inj (Option.some.inj hfor)
    exact Nat.le_add_right _ _

/-- Of the fences of a commit each goes to one place. -/
theorem count_commitFill (fd : Int) (answer : Committed) (d : HwcDisplay F) :
    ((commitFill answer d).elim [] fun fill => [fill.inputBuffer.releaseFenceFd]).count fd +
        (d.layerStack.ids.map answer.releaseFence).count fd + [answer.clientTargetFence].count fd +
          [answer.retireFence].count fd ≤
      (d.solidFillLayer.elim [] fun fill => [fill.inputBuffer.releaseFenceFd]).count fd +
        (commitFences answer d).count fd := by
  rw [commitFill, commitFences]
  split
  · cases d.solidFillLayer <;>
    · simp only [Option.map_none, Option.map_some, Option.elim_none, Option.elim_some, List.count_append,
        List.count_nil]
      omega
  · simp only [List.count_append, List.count_nil]
    omega

/-- A commit brings all fences that it writes. -/
theorem commit_pays (hready : h.Ready) {answer : Committed} (hres : h.commit answer = some h') :
    Pays fd h h' := by
  obtain ⟨layers, hloop, heq⟩ := Option.bind_eq_some_iff.mp hres
  obtain rfl := Option.some.inj heq
  have hlayers := commit_layers fd hready hloop
  have hfill := count_commitFill fd answer h.display
  rw [Pays, count_purse, count_purse]
  simp only [purse, Ledger.spent_add, Ledger.received_add, HwcLayer.count_held]
  simp only [Ledger.spent, List.count_nil]
  omega

/-- The check of a validation leaves the descriptors. -/
theorem checkSkip_purse (active : Bool) : (h.checkSkip active).purse = h.purse := by
  rw [checkSkip]
  split <;> rfl

/-- The error of a commit leaves the descriptors. -/
theorem afterCommit_purse (error : DisplayError) : (h.afterCommit error).1.purse = h.purse := by
  cases error <;> rfl

/-- A flush leaves the descriptors. -/
theorem flushFrame_purse : h.flushFrame.purse = h.purse := by
  rw [flushFrame]
  split <;> rfl

/-- `CommitLayerStack` pays: the fences it hands to the layers are received. -/
theorem commitLayerStack_pays (hgood : h.Good) (hshown : h.outline.idle = false) {answer : Committed}
    {error : Error} (hres : h.commitLayerStack answer = some (h', error)) : Pays fd h h' := by
  have hskip : Pays fd h (h.checkSkip answer.toneMapperActive) := .of_purse (checkSkip_purse _)
  simp only [commitLayerStack] at hres
  split at hres
  · obtain ⟨rfl, -⟩ := Prod.mk.inj (Option.some.inj hres)
    exact .of_purse rfl
  · split at hres
    · obtain ⟨rfl, -⟩ := Prod.mk.inj (Option.some.inj hres)
      exact hskip
    · rename_i hvalid
      split at hres
      · obtain ⟨rfl, -⟩ := Prod.mk.inj (Option.some.inj hres)
        exact hskip
      · obtain ⟨h₁, hcommit, heq⟩ := Option.map_eq_some_iff.mp hres
        have hready := checkSkip_ready hgood hshown (not_not.mp hvalid)
        have hafter : Pays fd h₁ (h₁.afterCommit answer.error).1 := .of_purse (afterCommit_purse _)
        rw [heq] at hafter
        exact (hskip.trans (commit_pays hready hcommit)).trans hafter

/-- The descriptors of the client target after a frame. -/
theorem count_dropTargetFence (hfd : 0 ≤ fd) (target : HwcLayer F) :
    (dropTargetFence target).2.count fd + (dropTargetFence target).1.held.count fd = target.held.count fd := by
  simp only [dropTargetFence, HwcLayer.count_held]
  split
  · rw [count_minus_one hfd]
    omega
  · rw [List.count_nil]
    omega

/-- The end of a frame pays if the loop over its layers does. -/
theorem endFrame_pays (hfd : 0 ≤ fd) {layers : Layers F} {closed : List Int}
    (hcount : closed.count fd + (h.display.layerSet.flatMap layers.held).count fd ≤
      (dropTargetFence h.display.clientTarget).2.count fd +
        (h.display.layerSet.flatMap h.display.layers.held).count fd) :
    Pays fd h (h.endFrame layers closed).1 := by
  have htarget := count_dropTargetFence hfd h.display.clientTarget
  rw [Pays, count_purse, count_purse]
  simp only [purse, endFrame, Ledger.spent_add, Ledger.received_add]
  simp only [Ledger.spent, List.count_nil]
  cases h.display.flush <;> cases h.display.swapIntervalZero <;>
  · simp only [Bool.not_true, Bool.not_false, Bool.and_true, Bool.and_false, Bool.or_true, Bool.or_false,
      Bool.false_eq_true, if_true, if_false, count_minus_one hfd, List.count_append]
    omega

/-- `PostCommitLayerStack` pays. -/
theorem postCommitLayerStack_pays (hfd : 0 ≤ fd) (hbooks : h.outline.Books) {retire : Int}
    (hres : h.postCommitLayerStack = some (h', retire)) : Pays fd h h' := by
  have hbooks' : h.flushFrame.outline.Books := h.flushFrame_outline.1 ▸ hbooks
  obtain ⟨⟨layers, closed⟩, hloop, heq⟩ := Option.map_eq_some_iff.mp hres
  have hcount := forLayers_spend (fun closed : List Int => closed.count fd)
    (fun closed l => count_postCommitLayer l hfd _ _ closed) (number_of_books hbooks' _)
    (nodup_of_books hbooks') hloop
  have hflush : Pays fd h h.flushFrame := .of_purse flushFrame_purse
  have hend := endFrame_pays (h := h.flushFrame) hfd hcount
  rw [heq] at hend
  exact hflush.trans hend

/-- `SolidFillCommit` pays. -/
theorem solidFillCommit_pays (hfd : 0 ≤ fd) : Pays fd h h.solidFillCommit := by
  rw [solidFillCommit]
  dsimp only
  split
  · rename_i fill hfill
    split
    · rw [Pays, count_purse, count_purse]
      simp only [purse, Ledger.spent_add, Ledger.received_add, hfill, Option.elim_some]
      simp only [Ledger.spent, List.count_nil, List.count_append]
      split <;> split <;> simp only [count_minus_one hfd, List.count_nil] <;> omega
    · exact .of_purse rfl
  · exact .of_purse rfl

/-- `CloseAcquireFds` pays. -/
theorem closeAcquireFds_pays (hfd : 0 ≤ fd) (hbooks : h.outline.Books) (hres : h.closeAcquireFds = some h') :
    Pays fd h h' := by
  obtain ⟨⟨layers, closed⟩, hloop, rfl⟩ := Option.map_eq_some_iff.mp hres
  have hcount := forLayers_spend (fun closed : List Int => closed.count fd)
    (fun closed l => (count_closeAcquire l hfd closed).le) (number_of_books hbooks _)
    (nodup_of_books hbooks) hloop
  have htarget := count_closeAcquire h.display.clientTarget hfd closed
  rw [Pays, count_purse, count_purse]
  simp only [purse, closeTarget, Ledger.spent_add, Ledger.received_add]
  simp only [Ledger.spent, List.count_nil] at hcount ⊢
  omega

/-- What follows a frame pays. -/
theorem afterFrame_pays (hfd : 0 ≤ fd) (hbooks : h.outline.Books) {retire : Int}
    (hres : h.afterFrame = some (h', retire)) : Pays fd h h' := by
  rw [afterFrame] at hres
  split at hres
  · exact (solidFillCommit_pays hfd).trans
      (postCommitLayerStack_pays hfd (h.solidFillCommit_outline.1 ▸ hbooks) hres)
  · exact postCommitLayerStack_pays hfd hbooks hres

/-- A frame of a display that shows something pays. -/
theorem presentFrame_pays (hfd : 0 ≤ fd) (hgood : h.Good) (hshown : h.outline.idle = false)
    {answer : Committed} {result : Error × Option Int} (hres : h.presentFrame answer = some (h', result)) :
    Pays fd h h' := by
  obtain ⟨h₁, error, hcommit, houtline, -⟩ := commitLayerStack_outline hgood hshown answer
  have hpays : Pays fd h h₁ := commitLayerStack_pays hgood hshown hcommit
  simp only [presentFrame, hcommit, Option.bind_some] at hres
  split at hres
  · obtain ⟨⟨h₂, retire⟩, hafter, heq⟩ := Option.map_eq_some_iff.mp hres
    obtain ⟨rfl, -⟩ := Prod.mk.inj heq
    exact hpays.trans (afterFrame_pays hfd (houtline ▸ hgood.books) hafter)
  · obtain ⟨rfl, -⟩ := Prod.mk.inj (Option.some.inj hres)
    exact hpays

/-- `Present` pays. -/
theorem present_pays (hfd : 0 ≤ fd) (hgood : h.Good) {answer : Committed} {result : Error × Option Int}
    (hres : h.present answer = some (h', result)) : Pays fd h h' := by
  obtain ⟨h₁, result₁, hframe, houtline, -⟩ := shown_outline hgood answer
  have hpays : Pays fd h h₁ := by
    split at hframe
    · obtain ⟨rfl, -⟩ := Prod.mk.inj (Option.some.inj hframe)
      exact .of_purse rfl
    · rename_i hshown
      exact presentFrame_pays hfd hgood (by simpa [outline_idle] using hshown) hframe
  rw [present, hframe, Option.bind_some] at hres
  obtain ⟨h₂, hclose, heq⟩ := Option.map_eq_some_iff.mp hres
  obtain ⟨rfl, -⟩ := Prod.mk.inj heq
  exact hpays.trans (closeAcquireFds_pays hfd (houtline ▸ hgood.books) hclose)

end Presenting

section Editing

/-- A new layer holds nothing. -/
theorem createLayer_pays (hfd : 0 ≤ fd) (hbooks : h.outline.Books) : Pays fd h h.createLayer.1 := by
  have hfresh : h.nextId ∉ h.display.layerSet := hbooks.not_mem_of_none (layerMap_nextId hbooks)
  obtain ⟨layers, hlayers⟩ : ∃ layers : Layers F, layers =
      Function.update h.display.layers h.nextId (some { id := h.nextId }) := ⟨_, rfl⟩
  have hperm := (emplace_perm (Layers.z layers) h.nextId h.display.layerSet).flatMap_right layers.held
  have hrest : h.display.layerSet.flatMap layers.held = h.display.layerSet.flatMap h.display.layers.held :=
    List.flatMap_congr fun id hid => by
      have hne : id ≠ h.nextId := fun heq => hfresh (heq ▸ hid)
      simp [Layers.held, hlayers, hne]
  have hnew : (layers.held h.nextId).count fd = 0 := by
    simp only [hlayers, Layers.held, Function.update_self, Option.map_some, Option.getD_some,
      HwcLayer.count_held, count_minus_one hfd]
  have hcount := hperm.count_eq fd
  rw [List.flatMap_cons, List.count_append, hrest, hnew] at hcount
  rw [Pays, count_purse, count_purse]
  simp only [purse, createLayer, ← hlayers]
  omega

/-- What a layer holds, and what the others hold. -/
theorem count_layer (fd : Int) (hbooks : h.outline.Books) {id : LayerId} (hid : id ∈ h.display.layerSet)
    (layers : Layers F) (hsame : ∀ x, x ≠ id → layers x = h.display.layers x) :
    ((h.display.layerSet.erase id).flatMap layers.held).count fd + (h.display.layers.held id).count fd =
      (h.display.layerSet.flatMap h.display.layers.held).count fd := by
  have hrest : (h.display.layerSet.erase id).flatMap layers.held =
      (h.display.layerSet.erase id).flatMap h.display.layers.held :=
    List.flatMap_congr fun x hx => by
      have hne : x ≠ id := fun heq => (nodup_of_books hbooks).not_mem_erase (heq ▸ hx)
      rw [Layers.held, Layers.held, hsame x hne]
  have hcount := ((List.perm_cons_erase hid).flatMap_right h.display.layers.held).count_eq fd
  rw [List.flatMap_cons, List.count_append] at hcount
  rw [hrest]
  omega

/-- A layer that is deleted closes what it holds. -/
theorem deleteLayer_pays (hbooks : h.outline.Books) {id : LayerId} (hid : id ∈ h.display.layerSet)
    {l : HwcLayer F} (hl : h.display.layers id = some l) : Pays fd h (h.deleteLayer id l) := by
  have hcount := count_layer fd hbooks hid (Function.update h.display.layers id none)
    fun x hx => Function.update_of_ne hx _ _
  have hheld : h.display.layers.held id = l.held := by simp [Layers.held, hl]
  rw [hheld, HwcLayer.count_held] at hcount
  rw [Pays, count_purse, count_purse]
  simp only [purse, deleteLayer, Ledger.spent_add, Ledger.received_add]
  simp only [Ledger.spent, closings, List.count_append, List.count_nil]
  omega

/-- `DestroyLayer` pays. -/
theorem destroyLayer_pays (hgood : h.Good) {id : LayerId} {error : Error}
    (hres : h.destroyLayer id = some (h', error)) : Pays fd h h' := by
  obtain rfl | rfl | ⟨target, hmem, l, hl, rfl⟩ := destroyLayer_cases hres
  · exact .of_purse rfl
  · exact .of_purse rfl
  · have hunmap : Pays fd (h.deleteLayer target l) ((h.deleteLayer target l).unmapLayer id) := .of_purse rfl
    exact (deleteLayer_pays hgood.books hmem hl).trans hunmap

/-- A layer that moves takes its descriptors along. -/
theorem moveLayer_pays (hbooks : h.outline.Books) {id : LayerId} (hid : id ∈ h.display.layerSet)
    {l : HwcLayer F} (hl : h.display.layers id = some l) (z : UInt32) : Pays fd h (h.moveLayer id l z) := by
  obtain ⟨layers, hlayers⟩ : ∃ layers : Layers F, layers =
      Function.update h.display.layers id (some (l.setLayerZOrder z)) := ⟨_, rfl⟩
  have hcount := count_layer fd hbooks hid layers
    fun x hx => by rw [hlayers, Function.update_of_ne hx]
  have hperm := ((emplace_perm (Layers.z layers) id (h.display.layerSet.erase id)).flatMap_right
    layers.held).count_eq fd
  have hmoved : layers.held id = l.held := by
    rw [Layers.held, hlayers, Function.update_self]
    exact held_change l _ _ _ fun _ => rfl
  have hheld : h.display.layers.held id = l.held := by simp [Layers.held, hl]
  rw [List.flatMap_cons, List.count_append, hmoved] at hperm
  rw [hheld] at hcount
  rw [Pays, count_purse, count_purse]
  simp only [purse, moveLayer, ← hlayers]
  omega

/-- `SetLayerZOrder` pays. -/
theorem setLayerZOrder_pays (hgood : h.Good) {id : LayerId} {z : UInt32} {error : Error}
    (hres : h.setLayerZOrder id z = some (h', error)) : Pays fd h h' := by
  obtain rfl | ⟨target, hmem, l, hl, -, rfl⟩ := setLayerZOrder_cases hres
  · exact .of_purse rfl
  · exact moveLayer_pays hgood.books hmem hl z

/-- A layer is written with what a call has brought. -/
theorem writeLayer_pays (hbooks : h.outline.Books) {id : LayerId} (hid : id ∈ h.display.layerSet)
    {l l' : HwcLayer F} (hl : h.display.layers id = some l) {descriptors : Ledger}
    (hcall : descriptors.spent fd + l'.held.count fd ≤ l.held.count fd + descriptors.received.count fd) :
    Pays fd h (h.writeLayer id l' descriptors) := by
  obtain ⟨layers, hlayers⟩ : ∃ layers : Layers F, layers =
      Function.update h.display.layers id (some l') := ⟨_, rfl⟩
  have hcount := count_layer fd hbooks hid layers
    fun x hx => by rw [hlayers, Function.update_of_ne hx]
  have hperm := ((List.perm_cons_erase hid).flatMap_right layers.held).count_eq fd
  have hwritten : layers.held id = l'.held := by simp [Layers.held, hlayers]
  have hheld : h.display.layers.held id = l.held := by simp [Layers.held, hl]
  rw [List.flatMap_cons, List.count_append, hwritten] at hperm
  rw [hheld] at hcount
  rw [Pays, count_purse, count_purse]
  simp only [purse, writeLayer, ← hlayers, Ledger.spent_add, Ledger.received_add]
  omega

/-- Every function of a layer pays. -/
theorem callLayerFunction_pays (hgood : h.Good) {current : Int → Int} {id : LayerId} {call : LayerCall F}
    {error : Error} (hres : h.callLayerFunction current id call = some (h', error)) : Pays fd h h' := by
  obtain rfl | ⟨target, l, hpointer, hl, rfl⟩ := callLayerFunction_cases hres
  · exact .of_purse rfl
  · obtain ⟨rfl, hmem⟩ := hgood.books.entry id target hpointer
    exact writeLayer_pays hgood.books hmem hl (LayerCall.count_run l current call)

/-- An accepted change leaves the descriptors. -/
theorem acceptChange_purse {d : HwcDisplay F} {change : LayerId × Composition}
    (hres : acceptChange h.display change = some d) : { h with display := d }.purse = h.purse := by
  obtain ⟨target, l, hl, rfl⟩ | rfl | rfl := acceptChange_cases hres
  · have hheld : Layers.held (Function.update h.display.layers target
        (some { l with clientRequested := change.2 })) = h.display.layers.held := by
      funext x
      by_cases hx : x = target
      · simp [Layers.held, hx, hl, HwcLayer.held]
      · simp [Layers.held, hx]
    simp [purse, hheld]
  · rfl
  · rfl

/-- `AcceptDisplayChanges` leaves the descriptors. -/
theorem acceptDisplayChanges_purse {error : Error} (hres : h.acceptDisplayChanges = some (h', error)) :
    h'.purse = h.purse := by
  obtain rfl | ⟨d, hreach, rfl⟩ := acceptDisplayChanges_cases hres
  · rfl
  · exact hreach.invariant (fun d => { h with display := d }.purse = h.purse)
      (fun d change d' hd hstep => (acceptChange_purse (h := { h with display := d }) hstep).trans hd) rfl

/-- `GetReleaseFences` hands out what the layers held. -/
theorem getReleaseFences_pays (hfd : 0 ≤ fd) (hbooks : h.outline.Books) {out : List (LayerId × Int)}
    (hres : h.getReleaseFences = some (h', out)) : Pays fd h h' := by
  obtain ⟨⟨layers, out⟩, hloop, heq⟩ := Option.map_eq_some_iff.mp hres
  obtain ⟨rfl, -⟩ := Prod.mk.inj heq
  have hcount := forLayers_spend (fun out : List (LayerId × Int) => (out.map Prod.snd).count fd)
    (fun out l => (count_takeFence l hfd out).le) (number_of_books hbooks _) (nodup_of_books hbooks) hloop
  rw [Pays, count_purse, count_purse]
  simp only [purse, handFences, Ledger.spent_add, Ledger.received_add]
  simp only [Ledger.spent, List.map_nil, List.count_nil] at hcount ⊢
  omega

/-- The damage of the client target leaves its descriptors. -/
theorem held_damageTarget (current : Int → Int) (dataspace : Int) (damage : List Frame) (l : HwcLayer F) :
    (damageTarget current dataspace damage l).held = l.held := by
  simp only [damageTarget]
  split
  · exact held_change (l.setLayerSurfaceDamage damage).1 _ _ _ fun _ => rfl
  · rfl

/-- `SetClientTarget` pays. -/
theorem setClientTarget_pays (current : Int → Int) (dup : Int) (target : Option (Handle F))
    (acquireFence dataspace : Int) (damage : List Frame) :
    Pays fd h (h.setClientTarget current dup target acquireFence dataspace damage).1 := by
  rw [setClientTarget]
  split
  · exact .of_purse rfl
  · split
    · exact .of_purse rfl
    · have hcount := count_setLayerBuffer h.display.clientTarget fd dup target acquireFence
      rw [Pays, count_purse, count_purse]
      simp only [purse, held_damageTarget, Ledger.spent_add, Ledger.received_add]
      omega

end Editing

/-- `SetPowerMode` leaves the descriptors. -/
theorem setPowerMode_purse (mode : PowerMode) (error : DisplayError) :
    (h.setPowerMode mode error).1.purse = h.purse := by
  rw [setPowerMode]
  split
  · rfl
  · split
    · rfl
    · cases error <;> rfl

/-- `SetDisplayStatus` leaves the descriptors. -/
theorem setDisplayStatus_purse (status : DisplayStatus) (error : DisplayError) :
    (h.setDisplayStatus status error).purse = h.purse := by
  cases status with
  | offline | online => exact setPowerMode_purse _ _
  | pause =>
    exact setPowerMode_purse (h := { h with display := { h.display with displayPaused := true } }) .off error
  | resume =>
    exact setPowerMode_purse
      (h := { h with display := { h.display with displayPaused := false, fbtValid := false } }) .on error

/-- No call spends a descriptor that is not in hand. -/
theorem call_pays (hfd : 0 ≤ fd) (hgood : h.Good) {current : Int → Int} {call : Call F}
    (hres : h.call current call = some h') : Pays fd h h' := by
  cases call with
  | destroyLayer id =>
    obtain ⟨_, hres⟩ := of_map_fst hres
    exact destroyLayer_pays hgood hres
  | setLayerZOrder id z =>
    obtain ⟨_, hres⟩ := of_map_fst hres
    exact setLayerZOrder_pays hgood hres
  | layerFunction id call =>
    obtain ⟨_, hres⟩ := of_map_fst hres
    exact callLayerFunction_pays hgood hres
  | validate validation =>
    obtain ⟨_, hres⟩ := of_map_fst hres
    exact validate_pays hfd hgood.books hres
  | acceptDisplayChanges =>
    obtain ⟨_, hres⟩ := of_map_fst hres
    exact .of_purse (acceptDisplayChanges_purse hres)
  | present answer =>
    obtain ⟨_, hres⟩ := of_map_fst hres
    exact present_pays hfd hgood hres
  | getReleaseFences =>
    obtain ⟨_, hres⟩ := of_map_fst hres
    exact getReleaseFences_pays hfd hgood.books hres
  | createLayer =>
    rw [← Option.some.inj hres]
    exact createLayer_pays hfd hgood.books
  | setClientTarget dup target acquireFence dataspace damage =>
    rw [← Option.some.inj hres]
    exact setClientTarget_pays current dup target acquireFence dataspace damage
  | setPowerMode mode error =>
    rw [← Option.some.inj hres]
    exact .of_purse (setPowerMode_purse mode error)
  | setDisplayStatus status error =>
    rw [← Option.some.inj hres]
    exact .of_purse (setDisplayStatus_purse status error)
  | setColorTransform identity ok =>
    rw [← Option.some.inj hres, setColorTransform]
    split <;> exact .of_purse rfl
  | forceRefreshRate rate =>
    rw [← Option.some.inj hres]
    refine .of_purse ?_
    simp only [forceRefreshRate]
    split <;> rfl
  | refresh =>
    rw [← Option.some.inj hres, refresh]
    split <;> exact .of_purse rfl
  | createDisplay | destroyDisplay | toggleScreenUpdates | setDisplayAnimating | setSolidFill
  | resetValidation =>
    rw [← Option.some.inj hres]
    exact .of_purse rfl

end Composer

namespace Session

variable {s s' : Session F} {fd : Int}

/-- What was spent of a descriptor and what is held of it was received. -/
def Honest (fd : Int) (s : Session F) : Prop :=
  s.ledger.spent fd + s.held.count fd ≤ s.ledger.received.count fd

/-- What a display holds of a descriptor. -/
def heldBy (fd : Int) (s : Session F) (type : DisplayType) : Nat :=
  ((s.displays type).elim [] HwcDisplay.held).count fd

/-- What a session holds, by its displays. -/
theorem count_held : s.held.count fd =
    s.heldBy fd .primary + s.heldBy fd .hdmi + s.heldBy fd .virtual := by
  simp only [held, heldBy, List.flatMap_cons, List.flatMap_nil, List.count_append, List.count_nil]
  omega

/-- A session in which one display has changed. -/
theorem Honest.of_update (hs : s.Honest fd) (type : DisplayType)
    (hothers : ∀ t, t ≠ type → s'.displays t = s.displays t)
    (hpays : s'.ledger.spent fd + s'.heldBy fd type + s.ledger.received.count fd ≤
      s.ledger.spent fd + s.heldBy fd type + s'.ledger.received.count fd) : s'.Honest fd := by
  have hsame {t : DisplayType} (ht : t ≠ type) : s'.heldBy fd t = s.heldBy fd t := by
    rw [heldBy, heldBy, hothers t ht]
  rw [Honest, count_held] at *
  cases type with
  | primary =>
    have hhdmi := hsame (t := .hdmi) (by decide)
    have hvirtual := hsame (t := .virtual) (by decide)
    omega
  | hdmi =>
    have hprimary := hsame (t := .primary) (by decide)
    have hvirtual := hsame (t := .virtual) (by decide)
    omega
  | virtual =>
    have hprimary := hsame (t := .primary) (by decide)
    have hhdmi := hsame (t := .hdmi) (by decide)
    omega

/-- A call of one display that pays keeps the session honest. -/
theorem Honest.put (hs : s.Honest fd) {type : DisplayType} {d : HwcDisplay F} {h : Composer F}
    (hd : s.displays type = some d) (hpays : Composer.Pays fd (s.view d) h) : (s.put type h).Honest fd := by
  refine hs.of_update type (fun t ht => Function.update_of_ne ht _ _) ?_
  have hnew : (s.put type h).heldBy fd type = h.display.held.count fd := by simp [heldBy, Session.put]
  have hold : s.heldBy fd type = d.held.count fd := by simp [heldBy, hd]
  rw [hnew, hold]
  exact hpays

/-- A display that goes closes what its layers hold, but for the fences of a frame. -/
theorem destroyDisplay_honest (hfd : 0 ≤ fd) (hs : s.Honest fd) {type : DisplayType} {d : HwcDisplay F}
    (hbooks : (s.view d).outline.Books) (hd : s.displays type = some d)
    (hres : s.destroyDisplay type d = some s') : s'.Honest fd := by
  obtain ⟨⟨layers, closed⟩, hloop, rfl⟩ := Option.map_eq_some_iff.mp hres
  have hclose (closed : List Int) (l : HwcLayer F) :
      (closeLayer closed l).2.count fd + (closeLayer closed l).1.held.count fd ≤
        closed.count fd + l.held.count fd := by
    simp only [closeLayer, Composer.closings, HwcLayer.count_held, List.count_append, List.count_nil,
      count_minus_one hfd]
    omega
  have hnumber := Composer.number_of_books hbooks d.layerSet
  have hcount := forLayers_spend (fun closed : List Int => closed.count fd) hclose hnumber
    (Composer.nodup_of_books hbooks) hloop
  refine hs.of_update type (fun t ht => Function.update_of_ne ht _ _) ?_
  have hold : s.heldBy fd type = (s.view d).display.held.count fd := by simp [heldBy, hd, Session.view]
  rw [hold, Composer.count_purse]
  simp only [heldBy, Function.update_self, Option.elim_none, List.count_nil, Ledger.spent_add,
    Ledger.received_add, Composer.purse, HwcLayer.count_held, Session.view]
  simp only [Ledger.spent, Composer.closings, List.count_append, List.count_nil, Session.view] at hcount ⊢
  omega

/-- A new display holds no descriptors. -/
theorem count_display (hfd : 0 ≤ fd) (settings : Settings) (type : DisplayType) (id : LayerId) :
    (settings.display type id : HwcDisplay F).held.count fd = 0 := by
  simp only [Settings.display, HwcDisplay.held, List.count_append, HwcLayer.count_held, List.flatMap_nil,
    Option.elim_none, List.count_nil, count_minus_one hfd]

/-- Every call keeps a sound session honest. -/
theorem Honest.call (hfd : 0 ≤ fd) (hs : s.Honest fd) (hsound : s.Sound) {current : Int → Int}
    {type : DisplayType} {call : Call F} (hcall : s.call current type call = some s') : s'.Honest fd := by
  obtain ⟨settings, hd, rfl⟩ | rfl | ⟨d, -, hd, hdestroy⟩ | ⟨d, h, hd, hres, rfl⟩ := call_cases hcall
  · refine hs.of_update type (fun t ht => Function.update_of_ne ht _ _) ?_
    simp [heldBy, hd, createDisplay, count_display hfd]
  · exact hs
  · exact destroyDisplay_honest hfd hs (hsound type d hd).2.books hd hdestroy
  · exact hs.put hd (Composer.call_pays hfd (hsound type d hd).2 hres)

/-- Over every run, a descriptor was closed or handed to the client at most as often as it was received,
and what the composer holds of it was received and not spent. -/
theorem spent_add_held_le {current : Int → Int} (hs : Reachable current s) {fd : Int} (hfd : 0 ≤ fd) :
    s.ledger.closed.count fd + s.ledger.handed.count fd + s.held.count fd ≤ s.ledger.received.count fd := by
  have hinv : s.Sound ∧ s.Honest fd := by
    refine Library.Reaches.invariant hs (fun s => s.Sound ∧ s.Honest fd) (fun s event s' hs hcall => ?_) ?_
    · exact ⟨hs.1.of_call hcall, hs.2.call hfd hs.1 hcall⟩
    · exact ⟨sound_start, by simp [Honest, Ledger.spent, held]⟩
  exact hinv.2

/-- A frame whose fences are given back. -/
def fencesTaken : List (DisplayType × Call F) :=
  firstFrame ++ [(.primary, .getReleaseFences), (.primary, .getReleaseFences)]

/-- The acquire fence is closed, the release fence and the retire fence are handed to the client, and the
buffer is held. -/
theorem spent_add_held_le_frame : ∃ s : Session Rat, Reachable id s ∧
    (s.ledger.closed.count 11 = 1 ∧ s.ledger.handed.count 20 = 1 ∧ s.ledger.handed.count 21 = 1 ∧
      s.held.count 10 = 1) ∧
    s.ledger.closed.count 20 + s.ledger.handed.count 20 + s.held.count 20 ≤ s.ledger.received.count 20 := by
  let test (s : Session Rat) : Bool := decide (s.ledger.closed.count 11 = 1 ∧ s.ledger.handed.count 20 = 1 ∧
    s.ledger.handed.count 21 = 1 ∧ s.held.count 10 = 1)
  obtain ⟨s, hs, htest⟩ : ∃ s : Session Rat, Reachable id s ∧ test s = true :=
    Library.Reaches.of_any fencesTaken test (by decide +kernel)
  exact ⟨s, hs, of_decide_eq_true htest, spent_add_held_le hs (by decide)⟩

end Session

end Yoshino.Hwc
