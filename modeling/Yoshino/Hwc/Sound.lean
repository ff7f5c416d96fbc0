import Yoshino.Hwc.Books

/-!
# No call reaches for a layer that is gone

While a display is validated and shows something, its stack is made of its own layers: whoever adds or
removes a layer takes the validation of all displays back, and a display that comes back from a pause is
not validated. So the objects behind all pointers that the composer follows are there, but for the null
pointers that accepting outdated changes leaves in the map.
-/

namespace Yoshino.Hwc

open Yoshino.Display (DisplayType FloatArith)

variable {F : Type} [FloatArith F]

/-- The books agree, and what may be committed is there. -/
structure Composer.Good (h : Composer F) : Prop where
  books : h.outline.Books
  current : h.outline.type ∈ h.validated → h.outline.idle = true ∨ h.outline.Current

/-- The books agree, and the stack is there. -/
structure Composer.Ready (h : Composer F) : Prop where
  books : h.outline.Books
  current : h.outline.Current

/-- What a call to one display may do to the others. -/
structure Composer.Follows (h h' : Composer F) : Prop where
  type : h'.outline.type = h.outline.type
  nextId : h.nextId ≤ h'.nextId
  others : ∀ t, t ≠ h.outline.type → t ∈ h'.validated → t ∈ h.validated

namespace Composer

variable {h h' h'' : Composer F}

/-- A display that is ready is good. -/
theorem Ready.good (hready : h.Ready) : h.Good := ⟨hready.books, fun _ => .inr hready.current⟩

/-- Two steps after each other. -/
theorem Follows.trans (hfirst : h.Follows h') (hsecond : h'.Follows h'') : h.Follows h'' where
  type := hsecond.type.trans hfirst.type
  nextId := hfirst.nextId.trans hsecond.nextId
  others t ht hmem := hfirst.others t ht (hsecond.others t (hfirst.type ▸ ht) hmem)

/-- A function that leaves the outline and validates no other display. -/
theorem Follows.of_outline (houtline : h'.outline = h.outline)
    (hothers : ∀ t, t ≠ h.outline.type → t ∈ h'.validated → t ∈ h.validated) : h.Follows h' where
  type := congrArg Outline.type houtline
  nextId := (congrArg Outline.nextId houtline).ge
  others := hothers

/-- A step that leaves the books and validates nothing follows. -/
theorem Follows.of_subset (houtline : h'.outline = h.outline) (hsubset : h'.validated ⊆ h.validated) :
    h.Follows h' := .of_outline houtline fun _ _ hmem => hsubset hmem

/-- A step that leaves the books and validates nothing keeps a display good. -/
theorem Good.of_subset (hgood : h.Good) (houtline : h'.outline = h.outline)
    (hsubset : h'.validated ⊆ h.validated) : h'.Good where
  books := houtline ▸ hgood.books
  current hmem := by
    rw [houtline] at hmem ⊢
    exact hgood.current (hsubset hmem)

/-- A step that leaves the books keeps a display ready. -/
theorem Ready.of_outline (hready : h.Ready) (houtline : h'.outline = h.outline) : h'.Ready :=
  ⟨houtline ▸ hready.books, houtline ▸ hready.current⟩

/-- The books tell whether a display shows nothing for now. -/
theorem outline_idle : h.outline.idle = idle h.display := by
  rw [Outline.idle, idle]
  rfl

/-- The pointers of the set lead to layers. -/
theorem live_of_books (hbooks : h.outline.Books) (id : LayerId) (hid : id ∈ h.display.layerSet) :
    (h.display.layers.marks id).isSome := hbooks.isSome hid

section Marking

/-- Composition by the client ends and leaves the books alone. -/
theorem markLayersForClientComposition_outline (hbooks : h.outline.Books) :
    ∃ h', h.markLayersForClientComposition = some h' ∧ h'.outline = h.outline ∧
      h'.validated = h.validated := by
  obtain ⟨layers, hloop, hmarks⟩ := mapLayers_marks (g := fun l => { l with layer := { l.layer with
    flags := { l.layer.flags with skip := true } } }) (fun _ => ⟨rfl, rfl⟩) (live_of_books hbooks)
  refine ⟨_, by rw [markLayersForClientComposition, hloop]; rfl, ?_, ?_⟩
  · simp [outline, hmarks]
  · rfl

/-- The bypass ends, leaves the books alone and counts as a validation. -/
theorem markLayersForGPUBypass_outline (hbooks : h.outline.Books) :
    ∃ h', h.markLayersForGPUBypass = some h' ∧ h'.outline = h.outline ∧
      h'.validated = insert h.display.type h.validated := by
  obtain ⟨layers, hloop, hmarks⟩ := mapLayers_marks
    (g := fun l => { l with layer := { l.layer with composition := .sde } }) (fun _ => ⟨rfl, rfl⟩)
    (live_of_books hbooks)
  refine ⟨_, by rw [markLayersForGPUBypass, hloop]; rfl, ?_, ?_⟩
  · simp [outline, hmarks]
  · rfl

/-- A secure session changes its own mark only. -/
theorem setSecureDisplay_outline (active : Bool) :
    (h.setSecureDisplay active).outline = { h.outline with secure := active } ∧
      (h.setSecureDisplay active).validated ⊆ h.validated := by
  rw [setSecureDisplay]
  split
  · rename_i hsame
    exact ⟨by simp [outline, hsame], subset_rfl⟩
  · split
    · exact ⟨rfl, subset_rfl⟩
    · refine ⟨rfl, ?_⟩
      dsimp only
      split
      · exact Finset.empty_subset _
      · exact subset_rfl
    · exact ⟨rfl, subset_rfl⟩

end Marking

section Validating

/-- The test for ten bits leaves the books alone. -/
theorem composeTenBit_outline (hbooks : h.outline.Books) :
    ∃ h', h.composeTenBit = some h' ∧ h'.outline = h.outline ∧ h'.validated = h.validated := by
  rw [composeTenBit]
  split
  · exact markLayersForClientComposition_outline hbooks
  · exact ⟨h, rfl, rfl, rfl⟩

/-- A failed colour transform leaves the books alone. -/
theorem composeFailedTransform_outline (hbooks : h.outline.Books) :
    ∃ h', h.composeFailedTransform = some h' ∧ h'.outline = h.outline ∧ h'.validated = h.validated := by
  rw [composeFailedTransform]
  split
  · exact markLayersForClientComposition_outline hbooks
  · exact ⟨h, rfl, rfl, rfl⟩

/-- A stack that was just built has the layers of the display. -/
theorem buildLayerStack_plain (hbooks : h.outline.Books) (scan : Frame → Frame) :
    ∃ h', h.buildLayerStack scan = some h' ∧ h'.outline.Books ∧ h'.outline.Plain ∧ h.Follows h' := by
  obtain ⟨layers, b, hloop, hmarks⟩ := forLayers_marks
    (a := { flags := { animating := h.display.animating }, geometryChanges := h.display.geometryChanges })
    (fun b l => buildLayer_kept l h.display scan b) (live_of_books hbooks)
  have hstacked : (h.stacked layers b).outline =
      { h.outline with stack := h.display.layerSet.map StackLayer.layer ++ [StackLayer.clientTarget] } := by
    simp [outline, stacked, hmarks]
  obtain ⟨h₁, hten, houtline, hvalidated⟩ := composeTenBit_outline
    (h := h.stacked layers b) (hstacked ▸ hbooks.of_stack _ _ _ _)
  obtain ⟨hsecure, hsubset⟩ := h₁.setSecureDisplay_outline b.secureDisplayActive
  let h₂ := h₁.setSecureDisplay b.secureDisplayActive
  have hfinal : h₂.outline = { h.outline with
      stack := h.display.layerSet.map StackLayer.layer ++ [StackLayer.clientTarget]
      secure := b.secureDisplayActive } := by
    rw [hsecure, houtline, hstacked]
  refine ⟨{ h₂ with display := { h₂.display with layerStackInvalid := false } }, ?_, ?_⟩
  · rw [buildLayerStack, hloop]
    simp only [Option.bind_eq_bind, Option.bind_some, hten]
    rfl
  · have htype : h₂.outline.type = h.outline.type := by rw [hfinal]
    have hnext : h₂.outline.nextId = h.outline.nextId := by rw [hfinal]
    change h₂.outline.Books ∧ h₂.outline.Plain ∧ _
    rw [hfinal]
    refine ⟨hbooks.of_stack _ _ _ _, List.Perm.refl _, htype, hnext.ge, fun t _ hmem => ?_⟩
    exact (hvalidated ▸ hsubset hmem : t ∈ (h.stacked layers b).validated)

/-- A fill or the layers themselves: the stack may be committed. -/
theorem solidFillPrepare_ready (hbooks : h.outline.Books) (hplain : h.outline.Plain)
    (width height color : UInt32) :
    ∃ h', h.solidFillPrepare width height color = some h' ∧ h'.Ready ∧ h.Follows h' := by
  rw [solidFillPrepare]
  split
  · let fill := fillMixer width height color (h.display.solidFillLayer.getD {})
    have hfill : (h.buildSolidFillStack fill).outline =
        { h.outline with stack := [.solidFill, .clientTarget], filled := true } := rfl
    obtain ⟨h', hmark, houtline, hvalidated⟩ := markLayersForGPUBypass_outline
      (h := h.buildSolidFillStack fill) (hfill ▸ hbooks.of_stack _ _ _ _)
    refine ⟨h', hmark, ⟨?_, .inr ?_⟩, ?_⟩
    · rw [houtline, hfill]
      exact hbooks.of_stack _ _ _ _
    · rw [houtline, hfill]
      exact ⟨rfl, rfl⟩
    · have htype : h'.outline.type = h.outline.type := by rw [houtline, hfill]
      have hnext : h'.outline.nextId = h.outline.nextId := by rw [houtline, hfill]
      refine ⟨htype, hnext.ge, fun t ht hmem => ?_⟩
      rw [hvalidated, Finset.mem_insert] at hmem
      exact hmem.resolve_left ht
  · refine ⟨_, rfl, ⟨?_, .inl hplain⟩, ⟨rfl, le_rfl, fun _ _ hmem => hmem⟩⟩
    exact hbooks.of_stack _ _ _ _

/-- The display core reads layers that are there, and its answer leaves the books alone. -/
theorem prepare_outline (hready : h.Ready) (answer : Prepared) :
    ∃ h', h.prepare answer = some h' ∧ h'.outline = h.outline ∧ h'.validated = h.validated := by
  have hlive : ∀ id ∈ h.display.layerStack.ids, (h.display.layers.marks id).isSome :=
    fun id hid => hready.books.isSome (hready.current.mem_layerSet hid)
  obtain ⟨layers, hloop, hmarks⟩ := mapLayers_marks
    (g := fun l => { l with layer := { l.layer with composition := answer.composition l.id } })
    (fun _ => ⟨rfl, rfl⟩) hlive
  refine ⟨_, by rw [prepare, hloop]; rfl, ?_, ?_⟩
  · simp [outline, hmarks]
  · rfl

/-- Collecting a change leaves number and depth. -/
theorem collectChange_kept (b : List (LayerId × Composition) × List LayerId) (l : HwcLayer F) :
    (collectChange b l).1.id = l.id ∧ (collectChange b l).1.z = l.z := ⟨rfl, rfl⟩

/-- The changes are about layers of the display. -/
theorem collectChanges_outline (hbooks : h.outline.Books) :
    ∃ h' error changed, h.collectChanges = some (h', error) ∧ changed ⊆ h.outline.layerSet ∧
      h'.outline = { h.outline with changed := changed } ∧ h'.validated = h.validated := by
  let P (b : List (LayerId × Composition) × List LayerId) : Prop := b.1.map Prod.fst ⊆ h.display.layerSet
  have hstep (b : List (LayerId × Composition) × List LayerId) (l : HwcLayer F) :
      ∀ id ∈ h.display.layerSet, h.display.layers.marks id = some (l.id, l.z) → P b →
        P (collectChange b l).2 := by
    intro id hid hmark hb x hx
    obtain rfl | hold := collectChange_changed l b hx
    · have hnumber : l.id = id := hbooks.number id _ hmark
      exact hnumber ▸ hid
    · exact hb hold
  obtain ⟨layers, b, hloop, hmarks, hchanged⟩ := forLayers_gathers (P := P) (a := ([], []))
    collectChange_kept (live_of_books hbooks) (List.nil_subset _) hstep
  refine ⟨_, _, b.1.map Prod.fst, by rw [collectChanges, hloop]; rfl, hchanged, ?_, ?_⟩
  · simp [outline, hmarks]
  · rfl

/-- A function that leaves the outline and validates no display but its own. -/
theorem Follows.of_insert (houtline : h'.outline = h.outline)
    (hvalidated : h'.validated = insert h.display.type h.validated) : h.Follows h' := by
  refine .of_outline houtline fun t ht hmem => ?_
  rw [hvalidated, Finset.mem_insert] at hmem
  exact hmem.resolve_left ht

/-- New changes of layers of the set keep a display ready. -/
theorem Ready.of_changed (hready : h.Ready) {changed : List LayerId} (hmem : changed ⊆ h.outline.layerSet)
    (houtline : h'.outline = { h.outline with changed := changed }) : h'.Ready :=
  ⟨houtline ▸ hready.books.of_changed hmem, houtline ▸ hready.current⟩

/-- New changes follow. -/
theorem Follows.of_changed {changed : List LayerId}
    (houtline : h'.outline = { h.outline with changed := changed })
    (hothers : ∀ t, t ≠ h.outline.type → t ∈ h'.validated → t ∈ h.validated) : h.Follows h' where
  type := by rw [houtline]
  nextId := (congrArg Outline.nextId houtline).ge
  others := hothers

/-- Collecting the changes ends with a display that is ready. -/
theorem collectChanges_ready (hready : h.Ready) :
    ∃ h' error, h.collectChanges = some (h', error) ∧ h'.Ready ∧ h.Follows h' := by
  obtain ⟨h', error, changed, hcollect, hmem, houtline, hvalidated⟩ := collectChanges_outline hready.books
  refine ⟨h', error, hcollect, hready.of_changed hmem houtline, .of_changed houtline fun t _ ht => ?_⟩
  exact hvalidated ▸ ht

/-- Whatever the display core answers, the display is ready afterwards. -/
theorem afterPrepare_ready (hready : h.Ready) (error : DisplayError) :
    ∃ h' result, h.afterPrepare error = some (h', result) ∧ h'.Ready ∧ h.Follows h' := by
  cases error with
  | none =>
    let h₁ : Composer F := { h with validated := insert h.display.type h.validated }
    have hinsert : h.Follows h₁ := .of_insert rfl rfl
    obtain ⟨h', result, hcollect, hready', hfollows⟩ := collectChanges_ready (h := h₁)
      (hready.of_outline rfl)
    exact ⟨h', result, hcollect, hready', hinsert.trans hfollows⟩
  | permission | shutDown | notValidated | other =>
    exact ⟨_, _, rfl, ⟨hready.books, hready.current⟩, .of_subset rfl subset_rfl⟩

/-- `PrepareLayerStack` leaves the stack as it was built. -/
theorem prepareLayerStack_ready (hready : h.Ready) (answer : Prepared) :
    ∃ h' error, h.prepareLayerStack answer = some (h', error) ∧ h'.Ready ∧ h.Follows h' := by
  have hcleared : h.clearChanges.Ready := hready.of_changed (List.nil_subset _) rfl
  have hfollows : h.Follows h.clearChanges := .of_changed rfl fun _ _ ht => ht
  simp only [prepareLayerStack]
  split
  · exact ⟨_, _, rfl, hcleared, hfollows⟩
  · split
    · obtain ⟨h₁, hmark, houtline, hvalidated⟩ := markLayersForGPUBypass_outline hcleared.books
      have hskip : h.clearChanges.Follows h₁.skipPrepared := .of_insert houtline hvalidated
      obtain ⟨h₂, error, hcollect, hready₂, hfollows₂⟩ := collectChanges_ready (h := h₁.skipPrepared)
        (hcleared.of_outline houtline)
      refine ⟨h₂, error, by rw [hmark, Option.bind_some, hcollect], hready₂, ?_⟩
      exact (hfollows.trans hskip).trans hfollows₂
    · obtain ⟨h₁, hprepare, houtline, hvalidated⟩ := prepare_outline hcleared answer
      obtain ⟨h₂, error, hafter, hready₂, hfollows₂⟩ :=
        afterPrepare_ready (hcleared.of_outline houtline) answer.error
      refine ⟨h₂, error, by rw [hprepare, Option.bind_some, hafter], hready₂, ?_⟩
      exact (hfollows.trans (.of_subset houtline hvalidated.le)).trans hfollows₂

/-- A validation that is bypassed keeps a display good that shows nothing. -/
theorem bypass_good (hbooks : h.outline.Books) (hidle : h.outline.idle = true) :
    ∃ h' error, h.bypass = some (h', error) ∧ h'.Good ∧ h.Follows h' := by
  obtain ⟨h', hmark, houtline, hvalidated⟩ := markLayersForGPUBypass_outline hbooks
  refine ⟨h', .none, by rw [bypass, hmark]; rfl, ⟨houtline ▸ hbooks, fun _ => .inl ?_⟩, ?_⟩
  · rw [houtline, hidle]
  · exact .of_insert houtline hvalidated

/-- The end of `Validate` of the primary display. -/
theorem finishPrimary_good (hready : h.Ready) (htype : h.outline.type = .primary) (answer : Prepared) :
    ∃ h' error, h.finishPrimary answer = some (h', error) ∧ h'.Good ∧ h.Follows h' := by
  rw [finishPrimary]
  split
  · refine ⟨_, _, rfl, Ready.good ⟨hready.books, hready.current⟩, .of_outline rfl fun t ht hmem => ?_⟩
    rw [htype] at ht
    exact absurd (Finset.mem_singleton.mp hmem) ht
  · obtain ⟨h', error, hprepare, hready', hfollows⟩ := prepareLayerStack_ready hready answer
    exact ⟨h', error, hprepare, hready'.good, hfollows⟩

/-- The end of `Validate` of the other displays. -/
theorem finishOther_good (hready : h.Ready) (answer : Prepared) (flush : Bool) :
    ∃ h' error, h.finishOther answer flush = some (h', error) ∧ h'.Good ∧ h.Follows h' := by
  rw [finishOther]
  split
  · exact ⟨_, _, rfl, Ready.good ⟨hready.books, hready.current⟩, .of_subset rfl subset_rfl⟩
  · obtain ⟨h', error, hprepare, hready', hfollows⟩ := prepareLayerStack_ready hready answer
    exact ⟨h', error, hprepare, hready'.good, hfollows⟩

/-- `Validate` of the primary display ends and leaves it good. -/
theorem validatePrimary_good (hbooks : h.outline.Books) (htype : h.outline.type = .primary)
    (v : Validation) :
    ∃ h' error, h.validatePrimary v = some (h', error) ∧ h'.Good ∧ h.Follows h' := by
  rw [validatePrimary]
  split
  · rename_i hpaused
    exact bypass_good hbooks (by rw [Outline.idle, htype]; exact hpaused)
  · obtain ⟨h₁, hbuild, hbooks₁, hplain₁, hfollows₁⟩ := buildLayerStack_plain hbooks v.scan
    obtain ⟨h₂, hcompose, houtline₂, hvalidated₂⟩ := composeFailedTransform_outline hbooks₁
    obtain ⟨h₃, hfill, hready₃, hfollows₃⟩ := solidFillPrepare_ready (houtline₂ ▸ hbooks₁)
      (houtline₂ ▸ hplain₁) v.mixerWidth v.mixerHeight v.solidFillColor
    have hfollows : h.Follows h₃ :=
      (hfollows₁.trans (.of_subset houtline₂ hvalidated₂.le)).trans hfollows₃
    have hrate : h₃.Follows (h₃.chooseRefreshRate v.refreshRateAccepted) := .of_subset rfl subset_rfl
    obtain ⟨h₄, error, hfinish, hgood, hfollows₄⟩ := finishPrimary_good
      (h := h₃.chooseRefreshRate v.refreshRateAccepted) (hready₃.of_outline rfl)
      (hfollows.type.trans htype) v.prepared
    refine ⟨h₄, error, ?_, hgood, (hfollows.trans hrate).trans hfollows₄⟩
    simp only [hbuild, hcompose, hfill, Option.bind_eq_bind, Option.bind_some, hfinish]

/-- The other displays: the stack is built, and then validated if it has layers. -/
theorem finishOther_build_good (hbooks : h.outline.Books) (v : Validation) (flush : Composer F → Bool) :
    ∃ h' error, ((h.buildLayerStack v.scan).bind fun h => h.finishOther v.prepared (flush h)) =
      some (h', error) ∧ h'.Good ∧ h.Follows h' := by
  obtain ⟨h₁, hbuild, hbooks₁, hplain₁, hfollows₁⟩ := buildLayerStack_plain hbooks v.scan
  obtain ⟨h₂, error, hfinish, hgood, hfollows₂⟩ :=
    finishOther_good ⟨hbooks₁, .inl hplain₁⟩ v.prepared (flush h₁)
  exact ⟨h₂, error, by rw [hbuild, Option.bind_some, hfinish], hgood, hfollows₁.trans hfollows₂⟩

/-- After `Validate` a display that is validated has its stack, or shows nothing. -/
theorem validate_good (hbooks : h.outline.Books) (v : Validation) :
    ∃ h' error, h.validate v = some (h', error) ∧ h'.Good ∧ h.Follows h' := by
  rw [validate]
  split
  · rename_i htype
    exact validatePrimary_good hbooks htype v
  · rename_i htype
    rw [validateExternal]
    split
    · rename_i hsecure
      exact bypass_good hbooks (by rw [Outline.idle, show h.outline.type = .hdmi from htype]; exact hsecure)
    · exact finishOther_build_good hbooks v fun _ => true
  · rename_i htype
    rw [validateVirtual]
    split
    · rename_i hpaused
      exact bypass_good hbooks
        (by rw [Outline.idle, show h.outline.type = .virtual from htype]; exact hpaused)
    · exact finishOther_build_good hbooks v fun h => h.display.flush

end Validating

section Presenting

/-- `CloseAcquireFds` ends and leaves the books alone. -/
theorem closeAcquireFds_outline (hbooks : h.outline.Books) :
    ∃ h', h.closeAcquireFds = some h' ∧ h'.outline = h.outline ∧ h'.validated = h.validated := by
  obtain ⟨layers, closed, hloop, hmarks⟩ := forLayers_marks (a := [])
    (fun closed l => closeAcquire_kept l closed) (live_of_books hbooks)
  refine ⟨_, by rw [closeAcquireFds, hloop]; rfl, ?_, ?_⟩
  · simp [outline, closeTarget, hmarks]
  · rfl

/-- A commit makes no fill and removes none. -/
theorem commitFill_isSome (answer : Committed) (d : HwcDisplay F) :
    (commitFill answer d).isSome = d.solidFillLayer.isSome := by
  rw [commitFill]
  split <;> simp

/-- The display core reads layers that are there, and the commit leaves the books alone. -/
theorem commit_outline (hready : h.Ready) (answer : Committed) :
    ∃ h', h.commit answer = some h' ∧ h'.outline = h.outline ∧ h'.validated = h.validated := by
  have hlive : ∀ id ∈ h.display.layerStack.ids, (h.display.layers.marks id).isSome :=
    fun id hid => hready.books.isSome (hready.current.mem_layerSet hid)
  obtain ⟨layers, hloop, hmarks⟩ := mapLayers_marks (g := fun l => { l with layer := { l.layer with
      inputBuffer := { l.layer.inputBuffer with releaseFenceFd := answer.releaseFence l.id } } })
    (fun _ => ⟨rfl, rfl⟩) hlive
  refine ⟨_, by rw [commit, hloop]; rfl, ?_, ?_⟩
  · simp [outline, hmarks, commitFill_isSome]
  · rfl

/-- The check may take the validation back and leaves the books alone. -/
theorem checkSkip_outline (active : Bool) :
    (h.checkSkip active).outline = h.outline ∧ (h.checkSkip active).validated ⊆ h.validated := by
  rw [checkSkip]
  split
  · exact ⟨rfl, Finset.erase_subset _ _⟩
  · exact ⟨rfl, subset_rfl⟩

/-- The error of a commit leaves the books alone. -/
theorem afterCommit_outline (error : DisplayError) :
    (h.afterCommit error).1.outline = h.outline ∧ (h.afterCommit error).1.validated ⊆ h.validated := by
  cases error with
  | notValidated => exact ⟨rfl, Finset.erase_subset _ _⟩
  | none | permission | shutDown | other => exact ⟨rfl, subset_rfl⟩

/-- A stack that is still validated when it is to be committed is there. -/
theorem checkSkip_ready (hgood : h.Good) (hshown : h.outline.idle = false) {active : Bool}
    (hvalid : (h.checkSkip active).display.type ∈ (h.checkSkip active).validated) :
    (h.checkSkip active).Ready := by
  obtain ⟨houtline, hsubset⟩ := h.checkSkip_outline active
  have hmem : h.outline.type ∈ h.validated := congrArg Outline.type houtline ▸ hsubset hvalid
  have hcurrent : h.outline.Current := (hgood.current hmem).resolve_left (by simp [hshown])
  exact Ready.of_outline ⟨hgood.books, hcurrent⟩ houtline

/-- A stack is committed only if it is there. -/
theorem commitLayerStack_outline (hgood : h.Good) (hshown : h.outline.idle = false) (answer : Committed) :
    ∃ h' error, h.commitLayerStack answer = some (h', error) ∧ h'.outline = h.outline ∧
      h'.validated ⊆ h.validated := by
  obtain ⟨houtline, hsubset⟩ := h.checkSkip_outline answer.toneMapperActive
  simp only [commitLayerStack]
  split
  · exact ⟨_, _, rfl, rfl, subset_rfl⟩
  · split
    · exact ⟨_, _, rfl, houtline, hsubset⟩
    · rename_i hvalid
      split
      · exact ⟨_, _, rfl, houtline, hsubset⟩
      · obtain ⟨h₁, hcommit, houtline₁, hvalidated₁⟩ :=
          commit_outline (checkSkip_ready hgood hshown (not_not.mp hvalid)) answer
        obtain ⟨houtline₂, hsubset₂⟩ := h₁.afterCommit_outline answer.error
        refine ⟨(h₁.afterCommit answer.error).1, (h₁.afterCommit answer.error).2, by rw [hcommit]; rfl, ?_, ?_⟩
        · rw [houtline₂, houtline₁, houtline]
        · exact hsubset₂.trans (hvalidated₁ ▸ hsubset)

/-- A flush leaves the books alone. -/
theorem flushFrame_outline :
    h.flushFrame.outline = h.outline ∧ h.flushFrame.validated ⊆ h.validated := by
  rw [flushFrame]
  split
  · exact ⟨rfl, Finset.erase_subset _ _⟩
  · exact ⟨rfl, subset_rfl⟩

/-- `PostCommitLayerStack` ends and leaves the books alone. -/
theorem postCommitLayerStack_outline (hbooks : h.outline.Books) :
    ∃ h' retire, h.postCommitLayerStack = some (h', retire) ∧ h'.outline = h.outline ∧
      h'.validated ⊆ h.validated := by
  obtain ⟨houtline, hsubset⟩ := h.flushFrame_outline
  obtain ⟨layers, closed, hloop, hmarks⟩ := forLayers_marks
    (a := (dropTargetFence h.flushFrame.display.clientTarget).2)
    (fun closed l => postCommitLayer_kept l h.flushFrame.display.flush
      h.flushFrame.display.swapIntervalZero closed)
    (live_of_books (h := h.flushFrame) (houtline ▸ hbooks))
  refine ⟨_, _, by simp only [postCommitLayerStack, hloop]; rfl, ?_, ?_⟩
  · rw [← houtline]
    simp [outline, hmarks]
  · exact hsubset

/-- `SolidFillCommit` leaves the books alone. -/
theorem solidFillCommit_outline :
    h.solidFillCommit.outline = h.outline ∧ h.solidFillCommit.validated = h.validated := by
  rw [solidFillCommit]
  dsimp only
  split
  · rename_i fill hfill
    split
    · simp [outline, hfill]
    · exact ⟨rfl, rfl⟩
  · exact ⟨rfl, rfl⟩

/-- What follows a frame ends and leaves the books alone. -/
theorem afterFrame_outline (hbooks : h.outline.Books) :
    ∃ h' retire, h.afterFrame = some (h', retire) ∧ h'.outline = h.outline ∧
      h'.validated ⊆ h.validated := by
  rw [afterFrame]
  split
  · obtain ⟨houtline, hvalidated⟩ := h.solidFillCommit_outline
    obtain ⟨h', retire, hpost, houtline', hsubset⟩ :=
      postCommitLayerStack_outline (h := h.solidFillCommit) (houtline ▸ hbooks)
    exact ⟨h', retire, hpost, houtline'.trans houtline, hvalidated ▸ hsubset⟩
  · exact postCommitLayerStack_outline hbooks

/-- A frame of a display that shows something ends and leaves the books alone. -/
theorem presentFrame_outline (hgood : h.Good) (hshown : h.outline.idle = false) (answer : Committed) :
    ∃ h' result, h.presentFrame answer = some (h', result) ∧ h'.outline = h.outline ∧
      h'.validated ⊆ h.validated := by
  obtain ⟨h₁, error, hcommit, houtline₁, hsubset₁⟩ := commitLayerStack_outline hgood hshown answer
  simp only [presentFrame, hcommit, Option.bind_some]
  split
  · obtain ⟨h₂, retire, hafter, houtline₂, hsubset₂⟩ := afterFrame_outline (houtline₁ ▸ hgood.books)
    exact ⟨h₂, _, by rw [hafter]; rfl, houtline₂.trans houtline₁, hsubset₂.trans hsubset₁⟩
  · exact ⟨h₁, _, rfl, houtline₁, hsubset₁⟩

/-- The frame of a display, if it shows one. -/
theorem shown_outline (hgood : h.Good) (answer : Committed) :
    ∃ h' result, (if idle h.display then some (h, Error.none, none) else h.presentFrame answer) =
      some (h', result) ∧ h'.outline = h.outline ∧ h'.validated ⊆ h.validated := by
  split
  · exact ⟨h, _, rfl, rfl, subset_rfl⟩
  · rename_i hshown
    exact presentFrame_outline hgood (by simpa [outline_idle] using hshown) answer

/-- `Present` leaves the layers and the stack. -/
theorem present_outline (hgood : h.Good) (answer : Committed) :
    ∃ h' result, h.present answer = some (h', result) ∧ h'.outline = h.outline ∧
      h'.validated ⊆ h.validated := by
  obtain ⟨h₁, result, hframe, houtline₁, hsubset₁⟩ := shown_outline hgood answer
  obtain ⟨h₂, hclose, houtline₂, hvalidated₂⟩ := closeAcquireFds_outline (houtline₁ ▸ hgood.books)
  refine ⟨h₂, result, by rw [present, hframe, Option.bind_some, hclose]; rfl, ?_, hvalidated₂ ▸ hsubset₁⟩
  exact houtline₂.trans houtline₁

end Presenting

end Composer

end Yoshino.Hwc
