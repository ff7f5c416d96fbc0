import Yoshino.Hwc.SessionSound

/-!
# Who composes which layer

The client asks for a composition of every layer, the display core decides, and the differences go back to
the client, who accepts them. After that both agree on every layer, and the agreement lasts: when the
display core decides the same again, the next validation has no differences.
-/

namespace Yoshino.Hwc

open Yoshino.Display (DisplayType LayerComposition FloatArith)

variable {F : Type} [FloatArith F]

/-- The display core decides the same for a layer whose client has accepted its decision. -/
theorem select_accepted (composition : LayerComposition) (fill : Bool) :
    HwcLayer.select composition (HwcLayer.select composition fill = .solidColor) =
      HwcLayer.select composition fill := by
  cases composition <;> cases fill <;> rfl

section Loops

variable {α : Type} {f : α → HwcLayer F → HwcLayer F × α} {ids : List LayerId} {layers layers' : Layers F}
  {a a' : α}

/-- What a loop has written for a layer that it went through. -/
theorem forLayers_get (hnodup : ids.Nodup) (hloop : forLayers f ids layers a = some (layers', a'))
    {id : LayerId} (hid : id ∈ ids) : ∃ a l, layers id = some l ∧ layers' id = some (f a l).1 := by
  induction ids generalizing layers a with
  | nil => exact absurd hid List.not_mem_nil
  | cons x ids ih =>
    obtain ⟨hx, hnodup⟩ := List.nodup_cons.mp hnodup
    cases hl : layers x with
    | none => simp [forLayers, hl] at hloop
    | some l =>
      simp only [forLayers, hl] at hloop
      obtain rfl | hid := List.mem_cons.mp hid
      · exact ⟨a, l, hl, by rw [forLayers_other hloop hx, Function.update_self]⟩
      · have hne : id ≠ x := fun heq => hx (heq ▸ hid)
        obtain ⟨a, l, hl, hl'⟩ := ih hnodup hloop hid
        exact ⟨a, l, by rwa [Function.update_of_ne hne] at hl, hl'⟩

end Loops

/-- An assignment to a new key adds one entry. -/
theorem mem_insertKey_iff {α : Type} {key : LayerId} {value : α} {entries : List (LayerId × α)}
    (hkey : key ∉ entries.map Prod.fst) (entry : LayerId × α) :
    entry ∈ insertKey key value entries ↔ entry = (key, value) ∨ entry ∈ entries := by
  induction entries with
  | nil => simp [insertKey]
  | cons first rest ih =>
    obtain ⟨hne, hrest⟩ := not_or.mp (List.mem_cons.not.mp hkey)
    rw [insertKey]
    split
    · exact List.mem_cons
    · rw [List.mem_cons, ih hrest, List.mem_cons]
      tauto

/-- What the display core has decided for a layer. -/
def HwcLayer.decided (l : HwcLayer F) : Composition := HwcLayer.select l.layer.composition l.layer.flags.solidFill

/-- The differences after one more layer. -/
theorem mem_collectChange_iff {b : List (LayerId × Composition) × List LayerId} {l : HwcLayer F}
    (hnew : l.id ∉ b.1.map Prod.fst) (entry : LayerId × Composition) :
    entry ∈ (Composer.collectChange b l).2.1 ↔
      entry ∈ b.1 ∨ l.clientRequested ≠ l.decided ∧ entry = (l.id, l.decided) := by
  have hchanges : (Composer.collectChange b l).2.1 =
      if l.clientRequested ≠ l.decided then insertKey l.id l.decided b.1 else b.1 := rfl
  rw [hchanges]
  split
  · rename_i hne
    rw [mem_insertKey_iff hnew]
    tauto
  · rename_i heq
    simp [not_not.mp heq]

/-- The differences are exactly those between what was asked for and what was decided. -/
theorem mem_changes_iff {ids : List LayerId} {layers layers' : Layers F}
    {b b' : List (LayerId × Composition) × List LayerId}
    (hloop : forLayers Composer.collectChange ids layers b = some (layers', b'))
    (hnumber : ∀ id ∈ ids, ∀ l, layers id = some l → l.id = id) (hnodup : ids.Nodup)
    (hnew : ∀ id ∈ ids, id ∉ b.1.map Prod.fst) (id : LayerId) (c : Composition) :
    (id, c) ∈ b'.1 ↔ (id, c) ∈ b.1 ∨
      id ∈ ids ∧ ∃ l, layers id = some l ∧ l.clientRequested ≠ l.decided ∧ c = l.decided := by
  induction ids generalizing layers b with
  | nil =>
    obtain ⟨-, rfl⟩ := Prod.mk.inj (Option.some.inj hloop)
    simp
  | cons x ids ih =>
    obtain ⟨hx, hnodup'⟩ := List.nodup_cons.mp hnodup
    cases hl : layers x with
    | none => simp [forLayers, hl] at hloop
    | some l =>
      simp only [forLayers, hl] at hloop
      obtain rfl : l.id = x := hnumber x List.mem_cons_self l hl
      have hrest {y : LayerId} (hy : y ∈ ids) (l' : HwcLayer F) :
          Function.update layers l.id (some l') y = layers y :=
        Function.update_of_ne (fun heq : y = l.id => hx (heq ▸ hy)) _ _
      have hfirst := mem_collectChange_iff (hnew l.id List.mem_cons_self)
      have hnew' : ∀ y ∈ ids, y ∉ (Composer.collectChange b l).2.1.map Prod.fst := by
        intro y hy hmem
        obtain rfl | hold := collectChange_changed l b hmem
        · exact hx hy
        · exact hnew y (List.mem_cons_of_mem _ hy) hold
      rw [ih hloop (fun y hy m hm => hnumber y (List.mem_cons_of_mem _ hy) m (hrest hy _ ▸ hm)) hnodup' hnew',
        hfirst, or_assoc]
      refine or_congr_right ?_
      constructor
      · rintro (⟨hne, heq⟩ | ⟨hmem, m, hm, hne⟩)
        · obtain ⟨rfl, rfl⟩ := Prod.mk.inj heq
          exact ⟨List.mem_cons_self, l, hl, hne, rfl⟩
        · exact ⟨List.mem_cons_of_mem _ hmem, m, hrest hmem _ ▸ hm, hne⟩
      · rintro ⟨hmem, m, hm, hne, rfl⟩
        obtain rfl | hmem := List.mem_cons.mp hmem
        · obtain rfl : l = m := Option.some.inj (hl.symm.trans hm)
          exact .inl ⟨hne, rfl⟩
        · exact .inr ⟨hmem, m, (hrest hmem _).trans hm, hne, rfl⟩

/-- What the client asks for, and whether the layer is marked as a fill. -/
def HwcLayer.asked (l : HwcLayer F) : Composition × Bool := (l.clientRequested, l.layer.flags.solidFill)

/-- The layers of a stack that is built are marked as the client has asked for them. -/
theorem buildLayer_asked (d : HwcDisplay F) (scan : Frame → Frame) (b : HwcDisplay.Build F) (l : HwcLayer F) :
    (d.buildLayer scan b l).1.asked = (l.clientRequested, decide (l.clientRequested = .solidColor)) := by
  have hstart : (HwcDisplay.startBuild l).asked =
      (l.clientRequested, decide (l.clientRequested = .solidColor)) := by
    have hflags : (HwcDisplay.requestedFlags l).solidFill = decide (l.clientRequested = .solidColor) := by
      rw [HwcDisplay.requestedFlags]
      cases l.clientRequested <;> rfl
    rw [← hflags, HwcDisplay.startBuild, HwcLayer.validateAndSetCSC]
    split
    · rfl
    · split <;> rfl
  have hdrop (l : HwcLayer F) : (d.dropAcquire l).1.asked = l.asked := by
    simp only [HwcDisplay.dropAcquire]
    split <;> rfl
  have hframe (frame : Frame) (l : HwcLayer F) : (l.setLayerDisplayFrame frame).1.asked = l.asked := by
    simp only [HwcLayer.setLayerDisplayFrame, HwcLayer.change]
    split <;> rfl
  have hfill (l : HwcLayer F) : (HwcDisplay.fillLayer l).asked = l.asked := by
    rw [HwcDisplay.fillLayer]
    split <;> rfl
  have hrate (rate : UInt32) (l : HwcLayer F) : (d.rateLayer rate l).1.asked = l.asked := by
    rw [HwcDisplay.rateLayer]
    split <;> rfl
  have hmark (l : HwcLayer F) : (d.markLayer l).asked = l.asked := rfl
  have hupdate (geometry : UInt32) (l : HwcLayer F) : (d.setUpdating geometry l).asked = l.asked := rfl
  simp only [HwcDisplay.buildLayer, hupdate, hrate, hfill, HwcDisplay.placeLayer, hframe, hmark, hdrop, hstart]

namespace Composer

variable {h h' h'' : Composer F}

/-- What is asked for the layer of a number. -/
def asked (h : Composer F) (id : LayerId) : Option (Composition × Bool) :=
  (h.display.layers id).map HwcLayer.asked

/-- Composition by the client is decided, not asked for. -/
theorem markLayersForClientComposition_asked (hres : h.markLayersForClientComposition = some h') :
    h'.asked = h.asked := by
  obtain ⟨layers, hloop, heq⟩ := Option.bind_eq_some_iff.mp hres
  rw [← Option.some.inj heq]
  exact funext (mapLayers_map hloop fun _ => rfl)

/-- The bypass is decided, not asked for. -/
theorem markLayersForGPUBypass_asked (hres : h.markLayersForGPUBypass = some h') : h'.asked = h.asked := by
  obtain ⟨layers, hloop, heq⟩ := Option.bind_eq_some_iff.mp hres
  rw [← Option.some.inj heq]
  exact funext (mapLayers_map hloop fun _ => rfl)

/-- What the display core decides is not asked for. -/
theorem prepare_asked {answer : Prepared} (hres : h.prepare answer = some h') : h'.asked = h.asked := by
  obtain ⟨layers, hloop, heq⟩ := Option.bind_eq_some_iff.mp hres
  rw [← Option.some.inj heq]
  exact funext (mapLayers_map hloop fun _ => rfl)

/-- A secure session leaves what is asked for. -/
theorem setSecureDisplay_asked (active : Bool) : (h.setSecureDisplay active).asked = h.asked := by
  rw [setSecureDisplay]
  split
  · rfl
  · split <;> rfl

/-- The test for ten bits leaves what is asked for. -/
theorem composeTenBit_asked (hres : h.composeTenBit = some h') : h'.asked = h.asked := by
  rw [composeTenBit] at hres
  split at hres
  · exact markLayersForClientComposition_asked hres
  · rw [Option.some.inj hres]

/-- A failed colour transform leaves what is asked for. -/
theorem composeFailedTransform_asked (hres : h.composeFailedTransform = some h') : h'.asked = h.asked := by
  rw [composeFailedTransform] at hres
  split at hres
  · exact markLayersForClientComposition_asked hres
  · rw [Option.some.inj hres]

/-- A solid fill leaves what is asked for. -/
theorem solidFillPrepare_asked {width height color : UInt32}
    (hres : h.solidFillPrepare width height color = some h') : h'.asked = h.asked := by
  rw [solidFillPrepare] at hres
  split at hres
  · exact (markLayersForGPUBypass_asked hres).trans rfl
  · rw [← Option.some.inj hres]
    rfl

/-- A number that is not in the set has no layer. -/
theorem layers_none (hbooks : h.outline.Books) {id : LayerId} (hid : id ∉ h.display.layerSet) :
    h.display.layers id = none := by
  have hmarks := (hbooks.alive id).not.mpr hid
  rw [Option.not_isSome_iff_eq_none] at hmarks
  exact Option.map_eq_none_iff.mp hmarks

/-- What is asked for a layer in a stack that is built. -/
theorem buildLayerStack_asked (hbooks : h.outline.Books) {scan : Frame → Frame}
    (hres : h.buildLayerStack scan = some h') (id : LayerId) :
    h'.asked id = (h.display.layers id).map
      fun l => (l.clientRequested, decide (l.clientRequested = .solidColor)) := by
  obtain ⟨⟨layers, b⟩, hloop, hrest⟩ := Option.bind_eq_some_iff.mp hres
  obtain ⟨h₁, hten, heq⟩ := Option.bind_eq_some_iff.mp hrest
  have hkept : h'.asked = (h.stacked layers b).asked := by
    rw [← Option.some.inj heq]
    exact (setSecureDisplay_asked _).trans (composeTenBit_asked hten)
  have hstacked : (h.stacked layers b).asked id = (layers id).map HwcLayer.asked := rfl
  rw [hkept, hstacked]
  by_cases hid : id ∈ h.display.layerSet
  · obtain ⟨b, l, hl, hl'⟩ := forLayers_get hbooks.nodup hloop hid
    rw [hl, hl', Option.map_some, Option.map_some, buildLayer_asked]
  · rw [forLayers_other hloop hid, layers_none hbooks hid]
    rfl

/-- A validation that is not refused ends where the differences are gathered. -/
theorem prepareLayerStack_collects (hready : h.Ready) {answer : Prepared} {error : Error}
    (hres : h.prepareLayerStack answer = some (h', error)) (herror : error ≠ .badDisplay) :
    ∃ h₀ : Composer F, h₀.outline.Books ∧ h₀.asked = h.asked ∧ h₀.display.type ∈ h₀.validated ∧
      h₀.collectChanges = some (h', error) := by
  have hcleared : h.clearChanges.Ready := hready.of_changed (List.nil_subset _) rfl
  simp only [prepareLayerStack] at hres
  split at hres
  · exact absurd (Prod.mk.inj (Option.some.inj hres)).2.symm herror
  · split at hres
    · obtain ⟨h₁, hmark, houtline, hvalidated⟩ := markLayersForGPUBypass_outline hcleared.books
      rw [hmark, Option.bind_some] at hres
      refine ⟨h₁.skipPrepared, (show h₁.outline.Books from houtline ▸ hcleared.books),
        (show h₁.asked = h.clearChanges.asked from markLayersForGPUBypass_asked hmark), ?_, hres⟩
      have htype : h₁.display.type = h.clearChanges.display.type := congrArg Outline.type houtline
      change h₁.display.type ∈ h₁.validated
      rw [hvalidated, htype]
      exact Finset.mem_insert_self _ _
    · obtain ⟨h₁, hprepare, houtline, -⟩ := prepare_outline hcleared answer
      rw [hprepare, Option.bind_some] at hres
      cases hanswer : answer.error with
      | none =>
        rw [hanswer] at hres
        exact ⟨{ h₁ with validated := insert h₁.display.type h₁.validated },
          (houtline ▸ hcleared.books : h₁.outline.Books),
          (show h₁.asked = h.clearChanges.asked from prepare_asked hprepare),
          Finset.mem_insert_self _ _, hres⟩
      | permission | shutDown | notValidated | other =>
        rw [hanswer] at hres
        exact absurd (Prod.mk.inj (Option.some.inj hres)).2.symm herror

/-- `Validate` of a display that shows something and has layers. -/
theorem validate_collects (hbooks : h.outline.Books) (hshown : idle h.display = false) {v : Validation}
    {error : Error} (hres : h.validate v = some (h', error)) (herror : error ≠ .badDisplay)
    (hlayers : h'.display.layerSet ≠ []) :
    ∃ h₀ : Composer F, h₀.outline.Books ∧ h₀.display.type ∈ h₀.validated ∧
      h₀.collectChanges = some (h', error) ∧
      ∀ id, h₀.asked id = (h.display.layers id).map
        fun l => (l.clientRequested, decide (l.clientRequested = .solidColor)) := by
  obtain ⟨h₁, hbuild, hbooks₁, hplain₁, -⟩ := buildLayerStack_plain hbooks v.scan
  have hbuilt := buildLayerStack_asked hbooks hbuild
  -- What is left to do once the stack is ready and has the marks of the build.
  have hfinish (h₂ : Composer F) (hready : h₂.Ready) (hasked : h₂.asked = h₁.asked)
      (hprepare : h₂.prepareLayerStack v.prepared = some (h', error)) :
      ∃ h₀ : Composer F, h₀.outline.Books ∧ h₀.display.type ∈ h₀.validated ∧
        h₀.collectChanges = some (h', error) ∧
        ∀ id, h₀.asked id = (h.display.layers id).map
          fun l => (l.clientRequested, decide (l.clientRequested = .solidColor)) := by
    obtain ⟨h₀, hbooks₀, hasked₀, hvalid, hcollect⟩ := prepareLayerStack_collects hready hprepare herror
    refine ⟨h₀, hbooks₀, hvalid, hcollect, fun id => ?_⟩
    rw [hasked₀, hasked, hbuilt]
  have hother {flush : Bool} (hres : h₁.finishOther v.prepared flush = some (h', error)) :
      h₁.prepareLayerStack v.prepared = some (h', error) := by
    rw [finishOther] at hres
    split at hres
    · rename_i hempty
      rw [← (Prod.mk.inj (Option.some.inj hres)).1] at hlayers
      exact absurd (List.isEmpty_iff.mp hempty) hlayers
    · exact hres
  rw [validate] at hres
  split at hres
  · rename_i htype
    obtain ⟨h₂, hcompose, houtline₂, -⟩ := composeFailedTransform_outline hbooks₁
    obtain ⟨h₃, hfill, hready₃, -⟩ := solidFillPrepare_ready (houtline₂ ▸ hbooks₁) (houtline₂ ▸ hplain₁)
      v.mixerWidth v.mixerHeight v.solidFillColor
    have hpaused : h.display.displayPaused = false := by simpa only [idle, htype] using hshown
    simp only [validatePrimary, hpaused, Bool.false_eq_true, if_false, hbuild, Option.bind_eq_bind,
      Option.bind_some, hcompose, hfill, finishPrimary] at hres
    split at hres
    · rename_i hempty
      rw [← (Prod.mk.inj (Option.some.inj hres)).1] at hlayers
      exact absurd (List.isEmpty_iff.mp hempty) hlayers
    · refine hfinish (h₃.chooseRefreshRate v.refreshRateAccepted) (hready₃.of_outline rfl) ?_ hres
      exact (solidFillPrepare_asked hfill).trans (composeFailedTransform_asked hcompose)
  · rename_i htype
    have hsecure : h.display.secureDisplayActive = false := by simpa only [idle, htype] using hshown
    simp only [validateExternal, hsecure, Bool.false_eq_true, if_false, hbuild, Option.bind_eq_bind,
      Option.bind_some] at hres
    exact hfinish h₁ ⟨hbooks₁, .inl hplain₁⟩ rfl (hother hres)
  · rename_i htype
    have hpaused : h.display.displayPaused = false := by simpa only [idle, htype] using hshown
    simp only [validateVirtual, hpaused, Bool.false_eq_true, if_false, hbuild, Option.bind_eq_bind,
      Option.bind_some] at hres
    exact hfinish h₁ ⟨hbooks₁, .inl hplain₁⟩ rfl (hother hres)

/-- What a validation leaves: every layer has the decision of the display core, and the differences to what
was asked for are those that the client is told. -/
structure Judged (h : Composer F) : Prop where
  decided : ∀ id l, h.display.layers id = some l → l.deviceSelected =
    HwcLayer.select l.layer.composition (decide (l.clientRequested = .solidColor))
  changes : ∀ id c, (id, c) ∈ h.display.layerChanges ↔
    ∃ l, h.display.layers id = some l ∧ l.clientRequested ≠ l.deviceSelected ∧ c = l.deviceSelected

/-- The layers after the differences are gathered. -/
theorem collectChanges_get (hbooks : h.outline.Books) {error : Error}
    (hres : h.collectChanges = some (h', error)) {id : LayerId} {l' : HwcLayer F}
    (hl' : h'.display.layers id = some l') :
    ∃ l, h.display.layers id = some l ∧ l' = l.setComposition.resetValidation := by
  obtain ⟨⟨layers, changes, requests⟩, hloop, heq⟩ := Option.bind_eq_some_iff.mp hres
  rw [← (Prod.mk.inj (Option.some.inj heq)).1] at hl'
  have hid : id ∈ h.display.layerSet := by
    by_contra hid
    have hnone : layers id = none := (forLayers_other hloop hid).trans (layers_none hbooks hid)
    simp [hnone] at hl'
  obtain ⟨b, l, hl, hget⟩ := forLayers_get hbooks.nodup hloop hid
  exact ⟨l, hl, Option.some.inj (hl'.symm.trans hget)⟩

/-- The changes are the layers for which something else is decided than was asked for, with what is
decided. -/
theorem mem_layerChanges_iff (hbooks : h.outline.Books) {error : Error}
    (hres : h.collectChanges = some (h', error)) (id : LayerId) (c : Composition) :
    (id, c) ∈ h'.display.layerChanges ↔
      ∃ l, h.display.layers id = some l ∧ l.clientRequested ≠ l.decided ∧ c = l.decided := by
  obtain ⟨⟨layers, changes, requests⟩, hloop, heq⟩ := Option.bind_eq_some_iff.mp hres
  rw [← (Prod.mk.inj (Option.some.inj heq)).1]
  have hnumber : ∀ id ∈ h.display.layerSet, ∀ l, h.display.layers id = some l → l.id = id :=
    fun id _ l hl => hbooks.number id (l.id, l.z) (by simp [outline, Layers.marks, hl])
  have hiff := mem_changes_iff hloop hnumber hbooks.nodup (by simp) id c
  refine hiff.trans ⟨fun hmem => ?_, fun hmem => ?_⟩
  · obtain hnil | ⟨-, hmem⟩ := hmem
    · simp at hnil
    · exact hmem
  · obtain ⟨l, hl, hne⟩ := hmem
    refine .inr ⟨?_, l, hl, hne⟩
    by_contra hid
    simp [layers_none hbooks hid] at hl

/-- What is asked for a layer that has marks of a build. -/
theorem asked_of_map (l : HwcLayer F) (source : Option (HwcLayer F))
    (hasked : some l.asked =
      source.map fun l => (l.clientRequested, decide (l.clientRequested = .solidColor))) :
    (∃ l₀, source = some l₀ ∧ l.clientRequested = l₀.clientRequested) ∧
      l.layer.flags.solidFill = decide (l.clientRequested = .solidColor) := by
  obtain ⟨l₀, hl₀, heq⟩ := Option.map_eq_some_iff.mp hasked.symm
  obtain ⟨hrequested, hfill⟩ := Prod.mk.inj heq
  exact ⟨⟨l₀, hl₀, hrequested.symm⟩, by rw [← hrequested]; exact hfill.symm⟩

/-- A validation that is not refused leaves a judgement of what the client has asked for. -/
theorem validate_judged (hbooks : h.outline.Books) (hshown : idle h.display = false) {v : Validation}
    {error : Error} (hres : h.validate v = some (h', error)) (herror : error ≠ .badDisplay)
    (hlayers : h'.display.layerSet ≠ []) :
    h'.Judged ∧ h'.display.type ∈ h'.validated ∧ (error = .none ↔ h'.display.layerChanges = []) ∧
      ∀ id l', h'.display.layers id = some l' →
        ∃ l, h.display.layers id = some l ∧ l'.clientRequested = l.clientRequested := by
  obtain ⟨h₀, hbooks₀, hvalid, hcollect, hasked⟩ := validate_collects hbooks hshown hres herror hlayers
  have hget {id : LayerId} {l' : HwcLayer F} (hl' : h'.display.layers id = some l') :=
    collectChanges_get hbooks₀ hcollect hl'
  have hfrom {id : LayerId} {l₀ : HwcLayer F} (hl₀ : h₀.display.layers id = some l₀) :=
    asked_of_map l₀ (h.display.layers id) (by rw [← hasked id, asked, hl₀, Option.map_some])
  obtain ⟨⟨layers, changes, requests⟩, hloop, heq⟩ := Option.bind_eq_some_iff.mp hcollect
  obtain ⟨hstate, hresult⟩ := Prod.mk.inj (Option.some.inj heq)
  refine ⟨⟨fun id l' hl' => ?_, fun id c => ?_⟩, ?_, ?_, fun id l' hl' => ?_⟩
  · obtain ⟨l₀, hl₀, rfl⟩ := hget hl'
    have hfill := (hfrom hl₀).2
    exact congrArg (HwcLayer.select l₀.layer.composition) hfill
  · rw [mem_layerChanges_iff hbooks₀ hcollect]
    constructor
    · rintro ⟨l₀, hl₀, hne, rfl⟩
      have hid : id ∈ h₀.display.layerSet := by
        by_contra hid
        simp [layers_none hbooks₀ hid] at hl₀
      obtain ⟨b, l₁, hl₁, hl'⟩ := forLayers_get hbooks₀.nodup hloop hid
      obtain rfl : l₀ = l₁ := Option.some.inj (hl₀.symm.trans hl₁)
      refine ⟨l₀.setComposition.resetValidation, ?_, hne, rfl⟩
      rw [← hstate]
      exact hl'
    · rintro ⟨l', hl', hne, rfl⟩
      obtain ⟨l₀, hl₀, rfl⟩ := hget hl'
      exact ⟨l₀, hl₀, hne, rfl⟩
  · rw [← hstate]
    exact hvalid
  · rw [← hresult, ← hstate]
    cases changes <;> simp
  · obtain ⟨l₀, hl₀, rfl⟩ := hget hl'
    exact (hfrom hl₀).1

/-- The differences are accepted one by one. -/
theorem acceptChanges_get {changes : List (LayerId × Composition)} {d d' : HwcDisplay F}
    {decision : LayerId → Composition} (hdecision : ∀ change ∈ changes, change.2 = decision change.1)
    (hmap : ∀ change ∈ changes, d.layerMap change.1 = some (some change.1))
    (hres : changes.foldlM acceptChange d = some d') (id : LayerId) :
    d'.layers id = (d.layers id).map fun l =>
      if id ∈ changes.map Prod.fst then { l with clientRequested := decision id } else l := by
  induction changes generalizing d with
  | nil =>
    rw [← Option.some.inj hres]
    simp
  | cons change changes ih =>
    rw [List.foldlM_cons] at hres
    obtain ⟨d₁, haccept, hrest⟩ := Option.bind_eq_some_iff.mp hres
    have hfirst := hmap change List.mem_cons_self
    simp only [acceptChange, hfirst] at haccept
    obtain ⟨l, hl, heq⟩ := Option.bind_eq_some_iff.mp haccept
    have hmap₁ : d₁.layerMap = d.layerMap := by rw [← Option.some.inj heq]
    have hlayers₁ : d₁.layers = Function.update d.layers change.1
        (some { l with clientRequested := change.2 }) := by rw [← Option.some.inj heq]
    rw [ih (fun change hmem => hdecision change (List.mem_cons_of_mem _ hmem))
      (fun change hmem => hmap₁ ▸ hmap change (List.mem_cons_of_mem _ hmem)) hrest, hlayers₁]
    by_cases hid : id = change.1
    · subst hid
      simp [hl, hdecision change List.mem_cons_self]
    · simp only [Function.update_of_ne hid, List.map_cons, List.mem_cons, hid, false_or]

/-- The client accepts a judgement: every layer has what was decided. -/
theorem acceptDisplayChanges_agrees (hbooks : h.outline.Books) (hjudged : h.Judged)
    (hvalid : h.display.type ∈ h.validated) (hlayers : h.display.layerSet ≠ []) :
    ∃ h', h.acceptDisplayChanges = some (h', .none) ∧
      ∀ id, h'.display.layers id = (h.display.layers id).map
        fun l => { l with clientRequested := l.deviceSelected } := by
  let decision (id : LayerId) : Composition := (h.display.layers id).elim .invalid HwcLayer.deviceSelected
  have hchange {change : LayerId × Composition} (hmem : change ∈ h.display.layerChanges) :
      ∃ l, h.display.layers change.1 = some l ∧ l.clientRequested ≠ l.deviceSelected ∧
        change.2 = l.deviceSelected := (hjudged.changes change.1 change.2).mp hmem
  have hmap : ∀ change ∈ h.display.layerChanges, h.display.layerMap change.1 = some (some change.1) := by
    intro change hmem
    obtain ⟨l, hl, -⟩ := hchange hmem
    exact hbooks.mapped change.1 ((hbooks.alive change.1).mp (by simp [outline, Layers.marks, hl]))
  have hdecision : ∀ change ∈ h.display.layerChanges, change.2 = decision change.1 := by
    intro change hmem
    obtain ⟨l, hl, -, heq⟩ := hchange hmem
    simp [decision, hl, heq]
  obtain ⟨d, -, hfold, -, -⟩ := acceptChanges_books h.display.layerChanges hbooks
    fun change hmem => hbooks.changed change.1 (List.mem_map_of_mem hmem)
  have hempty : h.display.layerSet.isEmpty = false := by simpa using hlayers
  refine ⟨{ h with display := d }, ?_, fun id => ?_⟩
  · rw [acceptDisplayChanges, hempty, if_neg (by simp), if_neg (not_not.mpr hvalid), hfold]
    rfl
  · rw [acceptChanges_get hdecision hmap hfold id]
    cases hl : h.display.layers id with
    | none => rfl
    | some l =>
      rw [Option.map_some, Option.map_some]
      split
      · simp [decision, hl]
      · rename_i hnot
        -- No difference was found for this layer.
        have hsame : l.clientRequested = l.deviceSelected := by
          by_contra hne
          have hchanged := (hjudged.changes id _).mpr ⟨l, hl, hne, rfl⟩
          exact hnot (List.mem_map.mpr ⟨(id, l.deviceSelected), hchanged, rfl⟩)
        exact congrArg (fun c => some { l with clientRequested := c }) hsame

end Composer

namespace Session

/-- Whatever the display core decides, the client can accept it. Afterwards what is asked for every layer is
what was decided for it, and a further validation in which the display core decides the same for every
layer has no differences. -/
theorem validate_after_accept {current : Int → Int} {s : Session F} (hs : Reachable current s)
    {type : DisplayType} {d : HwcDisplay F} (hd : s.displays type = some d)
    (hshown : Composer.idle d = false) {v₁ : Composer.Validation} {h₁ : Composer F} {error₁ : Error}
    (hvalidate₁ : (s.view d).validate v₁ = some (h₁, error₁)) (herror₁ : error₁ ≠ .badDisplay)
    (hlayers : h₁.display.layerSet ≠ []) :
    ∃ h₂, h₁.acceptDisplayChanges = some (h₂, .none) ∧
      (∀ id l, h₂.display.layers id = some l → l.clientRequested = l.deviceSelected) ∧
      ∀ v₃ h₃ error₃, h₂.validate v₃ = some (h₃, error₃) → error₃ ≠ .badDisplay →
        Composer.idle h₂.display = false → h₃.display.layerSet ≠ [] →
        (∀ id ∈ h₃.display.layerSet, (h₃.display.layers id).map (fun l => l.layer.composition) =
          (h₂.display.layers id).map fun l => l.layer.composition) →
        error₃ = .none := by
  have hgood := (sound_of_reachable hs _ d hd).2
  obtain ⟨hjudged₁, hvalid₁, -, -⟩ :=
    Composer.validate_judged hgood.books hshown hvalidate₁ herror₁ hlayers
  obtain ⟨h₁', _, hvalidate', hgood₁, -⟩ := Composer.validate_good hgood.books v₁
  obtain rfl : h₁' = h₁ := (Prod.mk.inj (Option.some.inj (hvalidate'.symm.trans hvalidate₁))).1
  obtain ⟨h₂, haccept, hlayers₂⟩ :=
    Composer.acceptDisplayChanges_agrees hgood₁.books hjudged₁ hvalid₁ hlayers
  have hagreed {id : LayerId} {l₂ : HwcLayer F} (hl₂ : h₂.display.layers id = some l₂) :
      ∃ l₁, h₁'.display.layers id = some l₁ ∧ l₂ = { l₁ with clientRequested := l₁.deviceSelected } := by
    obtain ⟨l₁, hl₁, heq⟩ := Option.map_eq_some_iff.mp ((hlayers₂ id).symm.trans hl₂)
    exact ⟨l₁, hl₁, heq.symm⟩
  refine ⟨h₂, haccept, fun id l₂ hl₂ => ?_, fun v₃ h₃ error₃ hvalidate₃ herror₃ hshown₂ hlayers₃ hsame => ?_⟩
  · obtain ⟨l₁, -, rfl⟩ := hagreed hl₂
    rfl
  · obtain ⟨h₂', _, haccept', hgood₂, -⟩ := Composer.acceptDisplayChanges_good hgood₁
    obtain rfl : h₂' = h₂ := (Prod.mk.inj (Option.some.inj (haccept'.symm.trans haccept))).1
    obtain ⟨hjudged₃, -, hnone, hrequested⟩ :=
      Composer.validate_judged hgood₂.books hshown₂ hvalidate₃ herror₃ hlayers₃
    obtain ⟨h₃', _, hvalidate₃', hgood₃, -⟩ := Composer.validate_good hgood₂.books v₃
    obtain rfl : h₃' = h₃ := (Prod.mk.inj (Option.some.inj (hvalidate₃'.symm.trans hvalidate₃))).1
    refine hnone.mpr (List.eq_nil_iff_forall_not_mem.mpr fun change hmem => ?_)
    obtain ⟨l₃, hl₃, hne, -⟩ := (hjudged₃.changes change.1 change.2).mp hmem
    obtain ⟨l₂, hl₂, hasked⟩ := hrequested _ l₃ hl₃
    obtain ⟨l₁, hl₁, rfl⟩ := hagreed hl₂
    -- Both decisions are made from the same composition.
    have hcomposition : l₃.layer.composition = l₁.layer.composition := by
      have hid : change.1 ∈ h₃'.display.layerSet :=
        (hgood₃.books.alive change.1).mp (by simp [Composer.outline, Layers.marks, hl₃])
      have hlayer := hsame change.1 hid
      rw [hl₃, hl₂] at hlayer
      exact Option.some.inj hlayer
    have hdecided : l₃.deviceSelected = l₁.deviceSelected := by
      rw [hjudged₃.decided _ l₃ hl₃, hasked, hcomposition, hjudged₁.decided _ l₁ hl₁]
      exact select_accepted _ _
    exact hne (hasked.trans hdecided.symm)

/-- One layer for the cursor and one for a color; the display core composes the first and not the second. -/
def cursorAndColor : List (DisplayType × Call F) :=
  [(.primary, .createDisplay {}), (.primary, .createLayer), (.primary, .createLayer),
    (.primary, .layerFunction 2 (.setLayerCompositionType .cursor)),
    (.primary, .layerFunction 3 (.setLayerCompositionType .solidColor))]

/-- The decision for these layers. -/
def deviceAndClient : Composer.Validation where
  prepared := { error := .none, composition := fun id => if id = 2 then .sde else .gpu }

/-- The two validations of these layers, as they can be computed. -/
def negotiates (s : Session F) : Bool :=
  (s.displays .primary).any fun d => !Composer.idle d &&
    ((s.view d).validate deviceAndClient).any fun r₁ =>
      decide (r₁.2 = .hasChanges ∧ r₁.1.display.layerChanges.length = 2 ∧ r₁.1.display.layerSet ≠ []) &&
        r₁.1.acceptDisplayChanges.any fun r₂ => !Composer.idle r₂.1.display &&
          (r₂.1.validate deviceAndClient).any fun r₃ =>
            decide (r₃.2 ≠ .badDisplay ∧ r₃.1.display.layerSet ≠ [] ∧
              ∀ id ∈ r₃.1.display.layerSet, (r₃.1.display.layers id).map (fun l => l.layer.composition) =
                (r₂.1.display.layers id).map fun l => l.layer.composition)

/-- Both layers are changed, and the second validation has no differences. -/
theorem validate_after_accept_cursor : ∃ (s : Session Rat) (d : HwcDisplay Rat) (h₁ h₂ h₃ : Composer Rat),
    (Reachable id s ∧ s.displays .primary = some d ∧
    (s.view d).validate deviceAndClient = some (h₁, .hasChanges) ∧ h₁.display.layerChanges.length = 2) ∧
    h₁.acceptDisplayChanges = some (h₂, .none) ∧ h₂.validate deviceAndClient = some (h₃, .none) := by
  obtain ⟨s, hs, htest⟩ : ∃ s : Session Rat, Reachable id s ∧ negotiates s = true :=
    Library.Reaches.of_any cursorAndColor negotiates (by decide +kernel)
  simp only [negotiates, Option.any_eq_true, Bool.and_eq_true, Bool.not_eq_true', decide_eq_true_eq,
    Prod.exists] at htest
  obtain ⟨d, hd, hshown, h₁, _, hvalidate₁, ⟨rfl, hlength, hset₁⟩, h₂, error₂, haccept, hshown₂, h₃, error₃,
    hvalidate₃, herror₃, hset₃, hsame⟩ := htest
  obtain ⟨h₂', haccept', -, hsecond⟩ :=
    validate_after_accept hs hd hshown hvalidate₁ (by decide) hset₁
  obtain ⟨rfl, rfl⟩ := Prod.mk.inj (Option.some.inj (haccept'.symm.trans haccept))
  obtain rfl := hsecond deviceAndClient h₃ error₃ hvalidate₃ herror₃ hshown₂ hset₃ hsame
  exact ⟨s, d, h₁, h₂', h₃, ⟨hs, hd, hvalidate₁, hlength⟩, haccept', hvalidate₃⟩

end Session

end Yoshino.Hwc
