import Yoshino.Hwc.SessionSound

/-!
# A frame without a validation of its own

`Present` may commit a stack that was validated for an earlier frame. Nothing compares the two frames:
the composer relies on the setters, which note what they change, and on the calls that take the
validation back. However many frames are presented after a validation, and whatever runs between them on
this display and on the others, a frame that reuses the validation has the same layers as at the
validation, in the same order, with the same geometry, blending, buffer size and content flags.

This rests on the first frame. `Present` checks nothing there, and it forgets what was noted about the
geometry, so what is changed between `Validate` and the first `Present` may be reused without ever being
validated. Nor do the setters note everything: not the composition type and the color the client asks for,
the visible region, a crop that only loses its fraction, and the format in the metadata of a buffer. The
surface damage is noted, but it is written even when it compares as equal, and is not followed here.
-/

namespace Yoshino.Hwc

open Yoshino.Display (DisplayType LayerRect FloatArith)

variable {F : Type} [FloatArith F]

/-- The attributes of a layer whose changes are noted. -/
structure Tracked (F : Type) [FloatArith F] where
  blending : LayerBlending
  dataspace : Int
  dstRect : LayerRect F
  srcRect : LayerRect F
  planeAlpha : UInt8
  transform : LayerTransform F
  z : UInt32
  width : UInt32
  height : UInt32
  frameRate : UInt32
  igc : LayerIGC
  interlace : Bool
  s3dFormat : LayerBufferS3DFormat
  secure : Bool
  secureCamera : Bool
  secureDisplay : Bool

namespace HwcLayer

/-- The attributes of a layer whose changes are noted. -/
def tracked (l : HwcLayer F) : Tracked F where
  blending := l.layer.blending
  dataspace := l.dataspace
  dstRect := l.layer.dstRect
  srcRect := l.layer.srcRect
  planeAlpha := l.layer.planeAlpha
  transform := l.layer.transform
  z := l.z
  width := l.layer.inputBuffer.width
  height := l.layer.inputBuffer.height
  frameRate := l.layer.frameRate
  igc := l.layer.inputBuffer.igc
  interlace := l.layer.inputBuffer.interlace
  s3dFormat := l.layer.inputBuffer.s3dFormat
  secure := l.layer.inputBuffer.secure
  secureCamera := l.layer.inputBuffer.secureCamera
  secureDisplay := l.layer.inputBuffer.secureDisplay

/-- All changes between two states of a layer were noted. -/
structure Noted (l l' : HwcLayer F) : Prop where
  stays : l.needsValidation = true → l'.needsValidation = true
  same : l'.needsValidation = false → l'.tracked = l.tracked

variable {l l' l'' : HwcLayer F}

/-- No change is noted well. -/
theorem Noted.refl : l.Noted l := ⟨fun h => h, fun _ => rfl⟩

/-- A layer is as it was at an earlier time, unless it asks for a validation. -/
def Kept (l l' : HwcLayer F) : Prop := l'.needsValidation = false → l'.tracked = l.tracked

/-- A further change that is noted. -/
theorem Kept.noted (hkept : l.Kept l') (hnoted : l'.Noted l'') : l.Kept l'' := fun h => by
  have hmiddle : l'.needsValidation = false :=
    Bool.eq_false_iff.mpr fun htrue => by simp [hnoted.stays htrue] at h
  exact (hnoted.same h).trans (hkept hmiddle)

/-- Two changes that are noted. -/
theorem Noted.trans (hfirst : l.Noted l') (hsecond : l'.Noted l'') : l.Noted l'' where
  stays h := hsecond.stays (hfirst.stays h)
  same := Kept.noted hfirst.same hsecond

/-- A write of what is not tracked. -/
theorem Noted.of_eq (htracked : l'.tracked = l.tracked) (hflag : l'.needsValidation = l.needsValidation) :
    l.Noted l' := ⟨fun h => hflag.trans h, fun _ => htracked⟩

/-- A write that asks for a validation. -/
theorem Noted.of_flag (hflag : l'.needsValidation = true) : l.Noted l' :=
  ⟨fun _ => hflag, fun h => by simp [hflag] at h⟩

/-- A bit of the changes asks for a validation. -/
theorem needsValidation_of_bit (bit : UInt32) (hbit : bit ≠ 0) (changes : UInt32)
    (hchanges : l.geometryChanges = changes ||| bit) : l.needsValidation = true := by
  have hne : changes ||| bit ≠ 0 := fun hzero => hbit (UInt32.or_eq_zero_iff.mp hzero).2
  simp [needsValidation, hchanges, hne]

/-- A setter that compares before it writes. -/
theorem change_noted (l : HwcLayer F) {α : Type} [BEq α] (bit : UInt32) (old new : α)
    {write : HwcLayer F → HwcLayer F} (hbit : bit ≠ 0)
    (hwrite : ∀ l, (write l).geometryChanges = l.geometryChanges) :
    l.Noted (l.change bit old new write) := by
  rw [change]
  split
  · exact .of_flag (needsValidation_of_bit bit hbit l.geometryChanges (hwrite _))
  · exact .refl

/-- A new size of the buffer is noted. -/
theorem setBufferGeometry_noted (handle : Handle F) : l.Noted (l.setBufferGeometry handle) := by
  by_cases hchanged : handle.format ≠ l.layer.inputBuffer.format ∨
      handle.alignedWidth ≠ l.layer.inputBuffer.width ∨ handle.alignedHeight ≠ l.layer.inputBuffer.height
  · refine .of_flag (needsValidation_of_bit kBufferGeometry (by decide) l.geometryChanges ?_)
    simp [setBufferGeometry, hchanged]
  · obtain ⟨-, hwidth, hheight⟩ := by simpa only [not_or, not_not] using hchanged
    refine .of_eq ?_ ?_
    · simp [tracked, setBufferGeometry, hwidth, hheight]
    · simp [needsValidation, setBufferGeometry, hchanged]

/-- A write after a comparison that the flag remembers. -/
theorem Noted.of_compare {changed : Prop} [Decidable changed]
    (hflag : l'.needsValidate = (l.needsValidate || decide changed))
    (hbits : l'.geometryChanges = l.geometryChanges) (hsame : ¬ changed → l'.tracked = l.tracked) :
    l.Noted l' := by
  by_cases hchanged : changed
  · exact .of_flag (by simp [needsValidation, hflag, hchanged])
  · exact .of_eq (hsame hchanged) (by simp [needsValidation, hflag, hbits, hchanged])

/-- New metadata of the buffer are noted. -/
theorem describe_noted (metadata : Metadata F) (igc : LayerIGC) : l.Noted (describe metadata l igc) := by
  refine .of_compare rfl rfl fun hsame => ?_
  obtain ⟨higc, hinterlace, hrate, hs3d⟩ := by simpa only [not_or, not_not] using hsame
  simp [tracked, describe, higc, hinterlace, hrate, hs3d]

/-- The contents of a buffer are noted as far as they are tracked. -/
theorem setBufferContent_noted (handle : Handle F) (acquireFence : Int) :
    l.Noted (l.setBufferContent handle acquireFence) := by
  refine .of_compare rfl rfl fun hsame => ?_
  obtain ⟨hsecure, hcamera, hdisplay⟩ := by simpa only [not_or, not_not] using hsame
  simpa [tracked, setBufferContent] using ⟨hsecure, hcamera, hdisplay⟩

/-- A new buffer is noted. -/
theorem setLayerBuffer_noted (dup : Int) (buffer : Option (Handle F)) (acquireFence : Int) :
    l.Noted (l.setLayerBuffer dup buffer acquireFence).1 := by
  cases buffer with
  | none => exact .refl
  | some handle =>
    have hheld : l.Noted { l with ionFd := dup } := .of_eq rfl rfl
    have hgeometry : l.Noted ({ l with ionFd := dup }.setBufferGeometry handle) :=
      hheld.trans (setBufferGeometry_noted handle)
    simp only [setLayerBuffer]
    split
    · exact .refl
    · split
      · exact .refl
      · split
        · exact hgeometry
        · rename_i described hdescribed
          obtain ⟨igc, -, rfl⟩ := Option.map_eq_some_iff.mp hdescribed
          exact (hgeometry.trans (describe_noted _ igc)).trans (setBufferContent_noted handle acquireFence)

/-- New damage asks for a validation, or leaves the flag. -/
theorem setLayerSurfaceDamage_noted (damage : List Frame) : l.Noted (l.setLayerSurfaceDamage damage).1 where
  stays h := by
    simp only [needsValidation, setLayerSurfaceDamage, Bool.or_eq_true] at h ⊢
    exact h.imp_left Or.inl
  same _ := rfl

/-- A new frame is noted. -/
theorem setLayerDisplayFrame_noted (frame : Frame) : l.Noted (l.setLayerDisplayFrame frame).1 := by
  simp only [setLayerDisplayFrame]
  exact change_noted l kDisplayFrame _ _ (by decide) fun _ => rfl

/-- Every function of a layer that the client calls notes its changes. -/
theorem run_noted (current : Int → Int) (call : LayerCall F) : l.Noted (call.run current l).1 := by
  cases call with
  | setLayerBlendMode mode =>
    cases mode <;> simp only [LayerCall.run, noDescriptors, setLayerBlendMode]
    case invalid => exact .refl
    all_goals exact change_noted l kBlendMode _ _ (by decide) fun _ => rfl
  | setLayerBuffer dup buffer acquireFence => exact setLayerBuffer_noted dup buffer acquireFence
  | setLayerColor color =>
    simp only [LayerCall.run, noDescriptors, setLayerColor]
    split
    · exact .refl
    · exact .of_eq rfl rfl
  | setLayerCompositionType _ | setLayerVisibleRegion _ => exact .of_eq rfl rfl
  | setLayerDataspace dataspace =>
    simp only [LayerCall.run, noDescriptors, setLayerDataspace]
    exact change_noted l kDataspace _ _ (by decide) fun _ => rfl
  | setLayerDisplayFrame frame => exact setLayerDisplayFrame_noted frame
  | setCursorPosition x y => exact setLayerDisplayFrame_noted _
  | setLayerPlaneAlpha alpha =>
    simp only [LayerCall.run, noDescriptors, setLayerPlaneAlpha]
    exact change_noted l kPlaneAlpha _ _ (by decide) fun _ => rfl
  | setLayerSourceCrop crop =>
    simp only [LayerCall.run, noDescriptors, setLayerSourceCrop]
    refine Noted.trans ?_ (change_noted _ kSourceCrop _ _ (by decide) fun _ => rfl)
    exact .of_eq rfl rfl
  | setLayerSurfaceDamage damage => exact setLayerSurfaceDamage_noted damage
  | setLayerTransform transform =>
    simp only [LayerCall.run, noDescriptors, setLayerTransform]
    exact change_noted l kTransform _ _ (by decide) fun _ => rfl

end HwcLayer

/-- The calls after which nothing is left of an earlier validation. -/
def Call.Restarts : Call F → Prop
  | .validate _ | .createDisplay _ | .destroyDisplay => True
  | _ => False

/-- A call that presents a frame. -/
def Call.Presents : Call F → Prop
  | .present _ => True
  | _ => False

namespace Composer

/-- The layers are the same as before, but for changes that were noted; so is their order, unless a layer
asks for a validation. -/
structure Alike (d d' : HwcDisplay F) : Prop where
  layers : ∀ id, Option.Rel HwcLayer.Noted (d.layers id) (d'.layers id)
  order : d'.layerSet = d.layerSet ∨ ∃ id l, d'.layers id = some l ∧ l.needsValidation = true
  target : d.clientTarget.Noted d'.clientTarget

/-- As long as the validation stands, the display is like before. -/
structure Stands (h h' : Composer F) : Prop where
  type : h'.display.type = h.display.type
  validated : h.display.type ∈ h'.validated → h.display.type ∈ h.validated
  alike : h.display.type ∈ h'.validated → Alike h.display h'.display

variable {h h' : Composer F}

/-- A layer that is left alone, or is not there. -/
theorem rel_refl (l : Option (HwcLayer F)) : Option.Rel HwcLayer.Noted l l := by
  cases l with
  | none => exact .none
  | some l => exact .some .refl

/-- Two changes that are noted. -/
theorem rel_trans {a b c : Option (HwcLayer F)} (hfirst : Option.Rel HwcLayer.Noted a b)
    (hsecond : Option.Rel HwcLayer.Noted b c) : Option.Rel HwcLayer.Noted a c := by
  cases hfirst with
  | none => exact hsecond
  | some h₁ =>
    cases hsecond with
    | some h₂ => exact .some (h₁.trans h₂)

/-- An order that was changed before stays noted. -/
theorem Alike.order_trans {ids : List LayerId} {d' d'' : HwcDisplay F} (hsecond : Alike d' d'')
    (hfirst : d'.layerSet = ids ∨ ∃ id l, d'.layers id = some l ∧ l.needsValidation = true) :
    d''.layerSet = ids ∨ ∃ id l, d''.layers id = some l ∧ l.needsValidation = true := by
  obtain hsame | hdirty := hsecond.order
  · obtain hold | ⟨id, l, hl, hflag⟩ := hfirst
    · exact .inl (hsame.trans hold)
    · have hrel := hsecond.layers id
      rw [hl] at hrel
      generalize hc : d''.layers id = c at hrel
      obtain ⟨hnoted⟩ := hrel
      exact .inr ⟨id, _, hc, hnoted.stays hflag⟩
  · exact .inr hdirty

/-- Two steps whose changes are noted. -/
theorem Alike.trans {d d' d'' : HwcDisplay F} (hfirst : Alike d d') (hsecond : Alike d' d'') : Alike d d'' where
  layers id := rel_trans (hfirst.layers id) (hsecond.layers id)
  order := hsecond.order_trans hfirst.order
  target := hfirst.target.trans hsecond.target

/-- A display is like itself. -/
theorem Alike.refl {d : HwcDisplay F} : Alike d d where
  layers _ := rel_refl _
  order := .inl rfl
  target := .refl

/-- A call that leaves layers and client target. -/
theorem Stands.of_same (htype : h'.display.type = h.display.type) (hvalidated : h'.validated ⊆ h.validated)
    (hlayers : h'.display.layers = h.display.layers) (hset : h'.display.layerSet = h.display.layerSet)
    (htarget : h'.display.clientTarget = h.display.clientTarget) : h.Stands h' where
  type := htype
  validated hmem := hvalidated hmem
  alike _ := by
    refine ⟨fun id => ?_, .inl hset, htarget ▸ .refl⟩
    rw [hlayers]
    exact Alike.refl.layers id

/-- A call that takes the validation back. -/
theorem Stands.of_empty (htype : h'.display.type = h.display.type) (hvalidated : h'.validated = ∅) :
    h.Stands h' where
  type := htype
  validated hmem := by simp [hvalidated] at hmem
  alike hmem := by simp [hvalidated] at hmem

/-- One layer is written. -/
theorem rel_update {layers : Layers F} {id : LayerId} {l l' : HwcLayer F} (hl : layers id = some l)
    (hnoted : l.Noted l') (x : LayerId) :
    Option.Rel HwcLayer.Noted (layers x) (Function.update layers id (some l') x) := by
  by_cases hx : x = id
  · rw [hx, hl, Function.update_self]
    exact .some hnoted
  · rw [Function.update_of_ne hx]
    exact rel_refl _

/-- A loop writes the layers one after the other. -/
theorem forLayers_noted {α : Type} {f : α → HwcLayer F → HwcLayer F × α}
    (hf : ∀ a (l : HwcLayer F), l.Noted (f a l).1) {ids : List LayerId} {layers layers' : Layers F} {a a' : α}
    (hloop : forLayers f ids layers a = some (layers', a')) (x : LayerId) :
    Option.Rel HwcLayer.Noted (layers x) (layers' x) := by
  induction ids generalizing layers a with
  | nil =>
    obtain ⟨rfl, -⟩ := Prod.mk.inj (Option.some.inj hloop)
    exact rel_refl _
  | cons id ids ih =>
    cases hl : layers id with
    | none => simp [forLayers, hl] at hloop
    | some l =>
      simp only [forLayers, hl] at hloop
      exact rel_trans (rel_update hl (hf a l) x) (ih hloop)

/-- A write to a layer is noted. -/
theorem writeLayer_stands {id : LayerId} {l l' : HwcLayer F} (hl : h.display.layers id = some l)
    (hnoted : l.Noted l') (descriptors : Ledger) : h.Stands (h.writeLayer id l' descriptors) where
  type := rfl
  validated hmem := by
    simp only [writeLayer] at hmem
    split at hmem
    · exact absurd hmem (Finset.notMem_empty _)
    · exact hmem
  alike _ := ⟨rel_update hl hnoted, .inl rfl, .refl⟩

/-- A layer that moves is noted. -/
theorem moveLayer_stands {id : LayerId} {l : HwcLayer F} (hl : h.display.layers id = some l) {z : UInt32}
    (hz : l.z ≠ z) : h.Stands (h.moveLayer id l z) where
  type := rfl
  validated hmem := hmem
  alike _ := by
    have hmoved : (l.setLayerZOrder z).needsValidation = true := by
      refine HwcLayer.needsValidation_of_bit HwcLayer.kZOrder (by decide) l.geometryChanges ?_
      simp [HwcLayer.setLayerZOrder, HwcLayer.change, hz]
    refine ⟨rel_update hl (.of_flag hmoved), .inr ⟨id, l.setLayerZOrder z, ?_, hmoved⟩, .refl⟩
    exact Function.update_self _ _ _

/-- `DestroyLayer` takes the validation back. -/
theorem destroyLayer_stands {id : LayerId} {error : Error} (hres : h.destroyLayer id = some (h', error)) :
    h.Stands h' := by
  obtain rfl | rfl | ⟨_, -, _, -, rfl⟩ := destroyLayer_cases hres
  · exact .of_same rfl subset_rfl rfl rfl rfl
  · exact .of_empty rfl rfl
  · exact .of_empty rfl rfl

/-- `SetLayerZOrder` notes the move. -/
theorem setLayerZOrder_stands {id : LayerId} {z : UInt32} {error : Error}
    (hres : h.setLayerZOrder id z = some (h', error)) : h.Stands h' := by
  obtain rfl | ⟨target, -, l, hl, hz, rfl⟩ := setLayerZOrder_cases hres
  · exact .of_same rfl subset_rfl rfl rfl rfl
  · exact moveLayer_stands hl hz

/-- Every function of a layer notes what it changes. -/
theorem callLayerFunction_stands {current : Int → Int} {id : LayerId} {call : LayerCall F} {error : Error}
    (hres : h.callLayerFunction current id call = some (h', error)) : h.Stands h' := by
  obtain rfl | ⟨target, l, -, hl, rfl⟩ := callLayerFunction_cases hres
  · exact .of_same rfl subset_rfl rfl rfl rfl
  · exact writeLayer_stands hl (HwcLayer.run_noted current call) _

/-- An accepted change is of nothing tracked. -/
theorem acceptChange_alike {d d' : HwcDisplay F} {change : LayerId × Composition}
    (hres : acceptChange d change = some d') : d'.type = d.type ∧ Alike d d' := by
  obtain ⟨target, l, hl, rfl⟩ | rfl | rfl := acceptChange_cases hres
  · exact ⟨rfl, rel_update hl (.of_eq rfl rfl), .inl rfl, .refl⟩
  · exact ⟨rfl, .refl⟩
  · exact ⟨rfl, Alike.refl.layers, .inl rfl, .refl⟩

/-- `AcceptDisplayChanges` changes nothing tracked. -/
theorem acceptDisplayChanges_stands {error : Error} (hres : h.acceptDisplayChanges = some (h', error)) :
    h.Stands h' := by
  obtain rfl | ⟨d, hreach, rfl⟩ := acceptDisplayChanges_cases hres
  · exact .of_same rfl subset_rfl rfl rfl rfl
  · have hkept : d.type = h.display.type ∧ Alike h.display d :=
      hreach.invariant (fun d => d.type = h.display.type ∧ Alike h.display d)
        (fun d change d' hd hstep => ⟨(acceptChange_alike hstep).1.trans hd.1,
          hd.2.trans (acceptChange_alike hstep).2⟩) ⟨rfl, .refl⟩
    exact ⟨hkept.1, fun hmem => hmem, fun _ => hkept.2⟩

/-- `GetReleaseFences` changes nothing tracked. -/
theorem getReleaseFences_stands {out : List (LayerId × Int)} (hres : h.getReleaseFences = some (h', out)) :
    h.Stands h' := by
  obtain ⟨⟨layers, out⟩, hloop, heq⟩ := Option.map_eq_some_iff.mp hres
  rw [← (Prod.mk.inj heq).1]
  refine ⟨rfl, fun hmem => hmem, fun _ => ⟨forLayers_noted (fun out l => ?_) hloop, .inl rfl, .refl⟩⟩
  rw [takeFence, HwcLayer.popReleaseFence]
  cases l.releaseFences <;> exact .of_eq rfl rfl

/-- `SetClientTarget` notes what it changes. -/
theorem setClientTarget_stands (current : Int → Int) (dup : Int) (target : Option (Handle F))
    (acquireFence dataspace : Int) (damage : List Frame) :
    h.Stands (h.setClientTarget current dup target acquireFence dataspace damage).1 := by
  rw [setClientTarget]
  split
  · exact .of_same rfl subset_rfl rfl rfl rfl
  · split
    · exact .of_same rfl subset_rfl rfl rfl rfl
    · refine ⟨rfl, fun hmem => hmem, fun _ => ⟨Alike.refl.layers, .inl rfl, ?_⟩⟩
      refine (HwcLayer.setLayerBuffer_noted dup target acquireFence).trans ?_
      simp only [damageTarget]
      split
      · refine (HwcLayer.setLayerSurfaceDamage_noted damage).trans ?_
        simp only [HwcLayer.setLayerDataspace]
        exact HwcLayer.change_noted _ HwcLayer.kDataspace _ _ (by decide) fun _ => rfl
      · exact HwcLayer.setLayerSurfaceDamage_noted damage

/-- `SetPowerMode` changes nothing tracked, or takes the validation back. -/
theorem setPowerMode_stands (mode : PowerMode) (error : DisplayError) :
    h.Stands (h.setPowerMode mode error).1 := by
  rw [setPowerMode]
  split
  · exact .of_same rfl subset_rfl rfl rfl rfl
  · split
    · exact .of_same rfl subset_rfl rfl rfl rfl
    · cases error <;> exact .of_empty rfl rfl

/-- The same layers in the same order, with the same tracked attributes. -/
structure SameFrame (d d' : HwcDisplay F) : Prop where
  order : d'.layerSet = d.layerSet
  target : d'.clientTarget.tracked = d.clientTarget.tracked
  layers : ∀ id, (d'.layers id).map HwcLayer.tracked = (d.layers id).map HwcLayer.tracked

/-- A display is the same as itself. -/
theorem SameFrame.refl {d : HwcDisplay F} : SameFrame d d := ⟨rfl, rfl, fun _ => rfl⟩

/-- Two steps that change nothing tracked. -/
theorem SameFrame.trans {d d' d'' : HwcDisplay F} (hfirst : SameFrame d d') (hsecond : SameFrame d' d'') :
    SameFrame d d'' where
  order := hsecond.order.trans hfirst.order
  target := hsecond.target.trans hfirst.target
  layers id := (hsecond.layers id).trans (hfirst.layers id)

/-- A display is the same as at an earlier time, but for what asks for a validation. -/
structure Kept (d d' : HwcDisplay F) : Prop where
  layers : ∀ id, Option.Rel HwcLayer.Kept (d.layers id) (d'.layers id)
  order : d'.layerSet = d.layerSet ∨ ∃ id l, d'.layers id = some l ∧ l.needsValidation = true
  target : d.clientTarget.Kept d'.clientTarget

/-- What is the same needs no excuse. -/
theorem SameFrame.kept {d d' : HwcDisplay F} (hsame : SameFrame d d') : Kept d d' where
  layers id := by
    have hid := hsame.layers id
    cases hl : d.layers id with
    | none =>
      rw [hl, Option.map_none, Option.map_eq_none_iff] at hid
      rw [hid]
      exact .none
    | some l =>
      rw [hl, Option.map_some, Option.map_eq_some_iff] at hid
      obtain ⟨l', hl', htracked⟩ := hid
      rw [hl']
      exact .some fun _ => htracked
  order := .inl hsame.order
  target _ := hsame.target

/-- Further changes that are noted. -/
theorem Kept.alike {d d' d'' : HwcDisplay F} (hkept : Kept d d') (halike : Alike d' d'') : Kept d d'' where
  layers id := by
    have hfirst := hkept.layers id
    have hsecond := halike.layers id
    revert hfirst hsecond
    generalize d.layers id = a
    generalize d'.layers id = b
    generalize d''.layers id = c
    intro hfirst hsecond
    cases hfirst with
    | none => cases hsecond with | none => exact .none
    | some h₁ => cases hsecond with | some h₂ => exact .some (h₁.noted h₂)
  order := halike.order_trans hkept.order
  target := hkept.target.noted halike.target

/-- Nothing asks for a validation, so everything is the same. -/
theorem Kept.sameFrame {d d' : HwcDisplay F} (hkept : Kept d d')
    (htarget : d'.clientTarget.needsValidation = false)
    (hlayers : ∀ id l, d'.layers id = some l → l.needsValidation = false) : SameFrame d d' where
  order := by
    refine hkept.order.resolve_right ?_
    rintro ⟨id, l, hl, hflag⟩
    simp [hlayers id l hl] at hflag
  target := hkept.target htarget
  layers id := by
    have hid := hkept.layers id
    have hclean := hlayers id
    revert hid hclean
    generalize d.layers id = a
    generalize d'.layers id = b
    intro hid hclean
    cases hid with
    | none => rfl
    | some hlayer => rw [Option.map_some, Option.map_some, hlayer (hclean _ rfl)]

/-- No layer asks for a validation. -/
theorem clean_of_canSkipValidate (hbooks : h.outline.Books) {active : Bool}
    (hskip : h.canSkipValidate active = true) : h.display.clientTarget.needsValidation = false ∧
      ∀ id l, h.display.layers id = some l → l.needsValidation = false := by
  simp only [canSkipValidate, Bool.and_eq_true, Bool.not_eq_true', List.all_eq_true] at hskip
  refine ⟨hskip.1.2, fun id l hl => ?_⟩
  have hmem : id ∈ h.display.layerSet := (hbooks.alive id).mp (by simp [outline, Layers.marks, hl])
  have hlayer := hskip.2 id hmem
  rw [hl, Option.elim_some, Bool.and_eq_true, Bool.not_eq_true'] at hlayer
  exact hlayer.1

/-- A call between two frames takes the validation back, or what it changes is noted. -/
theorem call_stands {current : Int → Int} {call : Call F} (hrestarts : ¬ call.Restarts)
    (hpresents : ¬ call.Presents) (hres : h.call current call = some h') : h.Stands h' := by
  cases call with
  | validate | createDisplay | destroyDisplay => exact (hrestarts trivial).elim
  | present => exact (hpresents trivial).elim
  | destroyLayer id =>
    obtain ⟨_, hres⟩ := of_map_fst hres
    exact destroyLayer_stands hres
  | setLayerZOrder id z =>
    obtain ⟨_, hres⟩ := of_map_fst hres
    exact setLayerZOrder_stands hres
  | layerFunction id call =>
    obtain ⟨_, hres⟩ := of_map_fst hres
    exact callLayerFunction_stands hres
  | acceptDisplayChanges =>
    obtain ⟨_, hres⟩ := of_map_fst hres
    exact acceptDisplayChanges_stands hres
  | getReleaseFences =>
    obtain ⟨_, hres⟩ := of_map_fst hres
    exact getReleaseFences_stands hres
  | setClientTarget dup target acquireFence dataspace damage =>
    rw [← Option.some.inj hres]
    exact setClientTarget_stands current dup target acquireFence dataspace damage
  | setPowerMode mode error =>
    rw [← Option.some.inj hres]
    exact setPowerMode_stands mode error
  | setDisplayStatus status error =>
    rw [← Option.some.inj hres]
    cases status with
    | offline | online => exact setPowerMode_stands _ _
    | pause | resume => exact .of_empty (setPowerMode_stands _ _).type rfl
  | setColorTransform identity ok =>
    rw [← Option.some.inj hres, setColorTransform]
    split
    · exact .of_same rfl subset_rfl rfl rfl rfl
    · exact .of_empty rfl rfl
  | forceRefreshRate rate =>
    rw [← Option.some.inj hres]
    refine .of_empty ?_ rfl
    simp only [forceRefreshRate]
    split <;> rfl
  | refresh =>
    rw [← Option.some.inj hres, refresh]
    split <;> exact .of_same rfl subset_rfl rfl rfl rfl
  | createLayer | toggleScreenUpdates | setDisplayAnimating | setSolidFill | resetValidation =>
    rw [← Option.some.inj hres]
    exact .of_empty rfl rfl

/-- Handing a frame to the display core leaves the tracked attributes. -/
theorem commit_sameFrame {answer : Committed} (hres : h.commit answer = some h') :
    h'.display.type = h.display.type ∧ h'.validated = h.validated ∧ SameFrame h.display h'.display := by
  obtain ⟨layers, hlayers, heq⟩ := Option.bind_eq_some_iff.mp hres
  obtain ⟨⟨_, _⟩, hloop, rfl⟩ := Option.map_eq_some_iff.mp hlayers
  rw [← Option.some.inj heq]
  exact ⟨rfl, rfl, rfl, rfl, forLayers_map (fun _ _ => rfl) hloop⟩

/-- The result of the display core does not concern the layers. -/
theorem afterCommit_sameFrame (error : DisplayError) :
    (h.afterCommit error).1.display.type = h.display.type ∧
      (h.afterCommit error).1.validated ⊆ h.validated ∧
      SameFrame h.display (h.afterCommit error).1.display := by
  cases error with
  | notValidated => exact ⟨rfl, Finset.erase_subset _ _, rfl, rfl, fun _ => rfl⟩
  | none | permission | shutDown | other => exact ⟨rfl, subset_rfl, rfl, rfl, fun _ => rfl⟩

/-- Whether `CommitLayerStack` hands a frame over without looking for changes: it is the first after a
validation, or a flush. -/
def unchecked (d : HwcDisplay F) : Bool := !idle d && (!d.skipValidate || d.flush)

/-- A check that leaves the validation finds nothing that asks for another, and changes nothing. -/
theorem checkSkip_stands {active : Bool} (hmem : h.display.type ∈ (h.checkSkip active).validated) :
    h.checkSkip active = h ∧ (h.display.skipValidate = true → h.canSkipValidate active = true) := by
  rw [checkSkip] at hmem ⊢
  by_cases hskip : (h.display.skipValidate && !h.canSkipValidate active) = true
  · rw [if_pos hskip] at hmem
    exact absurd rfl (Finset.mem_erase.mp hmem).1
  · rw [if_neg hskip]
    exact ⟨rfl, fun hasked => by simpa [hasked] using hskip⟩

/-- A frame of a display whose validation still stands was checked, unless none is asked for. -/
theorem commitLayerStack_checked {answer : Committed} {error : Error}
    (hres : h.commitLayerStack answer = some (h', error)) (hvalid : h.display.type ∈ h'.validated) :
    (h.display.skipValidate = true → h.display.flush = false →
        h.canSkipValidate answer.toneMapperActive = true) ∧
      h'.display.type = h.display.type ∧ h'.validated ⊆ h.validated ∧ SameFrame h.display h'.display := by
  rw [commitLayerStack] at hres
  split at hres
  next hflush =>
    obtain ⟨rfl, -⟩ := Prod.mk.inj (Option.some.inj hres)
    exact ⟨fun _ hno => by simp [hflush] at hno, rfl, subset_rfl, .refl⟩
  next hflush =>
    dsimp only at hres
    split at hres
    next hnot =>
      -- the check has taken the validation back, and the frame is refused
      obtain ⟨rfl, -⟩ := Prod.mk.inj (Option.some.inj hres)
      rw [(checkSkip_stands hvalid).1] at hnot hvalid
      exact absurd hvalid hnot
    next hmem =>
      have htype : (h.checkSkip answer.toneMapperActive).display.type = h.display.type := by
        rw [checkSkip]
        split <;> rfl
      rw [not_not, htype] at hmem
      obtain ⟨hsame, hskip⟩ := checkSkip_stands hmem
      rw [hsame] at hres
      split at hres
      · obtain ⟨rfl, -⟩ := Prod.mk.inj (Option.some.inj hres)
        exact ⟨fun hasked _ => hskip hasked, rfl, subset_rfl, .refl⟩
      · obtain ⟨h₁, hcommit, heq⟩ := Option.map_eq_some_iff.mp hres
        obtain ⟨htype₁, hvalidated₁, hframe₁⟩ := commit_sameFrame hcommit
        obtain ⟨htype₂, hvalidated₂, hframe₂⟩ := h₁.afterCommit_sameFrame answer.error
        rw [heq] at htype₂ hvalidated₂ hframe₂
        exact ⟨fun hasked _ => hskip hasked, htype₂.trans htype₁, hvalidated₁ ▸ hvalidated₂,
          hframe₁.trans hframe₂⟩

/-- The fences of a frame do not concern what is tracked. -/
theorem postCommitLayer_tracked (flush swapIntervalZero : Bool) (closed : List Int) (l : HwcLayer F) :
    (postCommitLayer flush swapIntervalZero closed l).1.tracked = l.tracked := by
  have hreleased : (releaseLayer flush swapIntervalZero l.resetGeometryChanges).1.tracked = l.tracked := by
    unfold releaseLayer
    dsimp only
    split
    · rfl
    · split
      · rfl
      · split <;> rfl
  rw [← hreleased]
  unfold postCommitLayer closeAcquire
  dsimp only
  split <;> rfl

/-- The fence of a fill is no layer's. -/
theorem solidFillCommit_sameFrame : h.solidFillCommit.display.type = h.display.type ∧
    h.solidFillCommit.validated = h.validated ∧ SameFrame h.display h.solidFillCommit.display := by
  unfold solidFillCommit
  dsimp only
  split
  · split
    · exact ⟨rfl, rfl, rfl, rfl, fun _ => rfl⟩
    · exact ⟨rfl, rfl, .refl⟩
  · exact ⟨rfl, rfl, .refl⟩

/-- A flush takes the validation back and leaves the layers. -/
theorem flushFrame_sameFrame : h.flushFrame.display.type = h.display.type ∧
    h.flushFrame.validated ⊆ h.validated ∧ SameFrame h.display h.flushFrame.display := by
  unfold flushFrame
  split
  · exact ⟨rfl, Finset.erase_subset _ _, rfl, rfl, fun _ => rfl⟩
  · exact ⟨rfl, subset_rfl, .refl⟩

/-- `PostCommitLayerStack` forgets the noted changes and leaves what is tracked. -/
theorem postCommitLayerStack_sameFrame {retire : Int} (hres : h.postCommitLayerStack = some (h', retire)) :
    h'.display.type = h.display.type ∧ h'.validated ⊆ h.validated ∧ SameFrame h.display h'.display := by
  obtain ⟨⟨layers, closed⟩, hloop, heq⟩ := Option.map_eq_some_iff.mp hres
  obtain rfl : (h.flushFrame.endFrame layers closed).1 = h' := congrArg Prod.fst heq
  obtain ⟨htype, hvalidated, hframe⟩ := h.flushFrame_sameFrame
  refine ⟨htype, hvalidated, hframe.trans ⟨rfl, rfl, ?_⟩⟩
  exact forLayers_map (postCommitLayer_tracked _ _) hloop

/-- What follows a frame forgets the noted changes and leaves what is tracked. -/
theorem afterFrame_sameFrame {retire : Int} (hres : h.afterFrame = some (h', retire)) :
    h'.display.type = h.display.type ∧ h'.validated ⊆ h.validated ∧ SameFrame h.display h'.display := by
  rw [afterFrame] at hres
  split at hres
  · obtain ⟨htype₁, hvalidated₁, hframe₁⟩ := h.solidFillCommit_sameFrame
    obtain ⟨htype₂, hvalidated₂, hframe₂⟩ := postCommitLayerStack_sameFrame hres
    exact ⟨htype₂.trans htype₁, hvalidated₁ ▸ hvalidated₂, hframe₁.trans hframe₂⟩
  · exact postCommitLayerStack_sameFrame hres

/-- Closing an acquire fence is no change that is tracked. -/
theorem closeAcquire_noted (closed : List Int) (l : HwcLayer F) : l.Noted (closeAcquire closed l).1 := by
  unfold closeAcquire
  dsimp only
  split
  · exact .of_eq rfl rfl
  · exact .refl

/-- Closing the acquire fences leaves what is tracked and what is noted. -/
theorem closeAcquireFds_alike (hres : h.closeAcquireFds = some h') :
    h'.display.type = h.display.type ∧ h'.validated = h.validated ∧ Alike h.display h'.display := by
  obtain ⟨⟨layers, closed⟩, hloop, rfl⟩ := Option.map_eq_some_iff.mp hres
  exact ⟨rfl, rfl, forLayers_noted closeAcquire_noted hloop, .inl rfl, closeAcquire_noted _ _⟩

/-- A frame that was handed over was checked, or it is one of those that are not. -/
theorem presentFrame_checked {answer : Committed} {result : Error × Option Int}
    (hres : h.presentFrame answer = some (h', result)) (hvalid : h.display.type ∈ h'.validated) :
    (h.display.skipValidate = true → h.display.flush = false →
        h.canSkipValidate answer.toneMapperActive = true) ∧
      h'.display.type = h.display.type ∧ h'.validated ⊆ h.validated ∧ SameFrame h.display h'.display := by
  obtain ⟨⟨h₁, error⟩, hcommit, hrest⟩ := Option.bind_eq_some_iff.mp hres
  dsimp only at hrest
  split at hrest
  · obtain ⟨⟨h₂, retire⟩, hafter, heq⟩ := Option.map_eq_some_iff.mp hrest
    obtain rfl : h₂ = h' := congrArg Prod.fst heq
    obtain ⟨htype₂, hvalidated₂, hframe₂⟩ := afterFrame_sameFrame hafter
    obtain ⟨hchecked, htype₁, hvalidated₁, hframe₁⟩ :=
      commitLayerStack_checked hcommit (hvalidated₂ hvalid)
    exact ⟨hchecked, htype₂.trans htype₁, hvalidated₂.trans hvalidated₁, hframe₁.trans hframe₂⟩
  · obtain rfl : h₁ = h' := congrArg Prod.fst (Option.some.inj hrest)
    exact commitLayerStack_checked hcommit hvalid

/-- A frame keeps what is tracked since an earlier time, if it is as it was then or is checked. -/
theorem present_kept (hbooks : h.outline.Books) {answer : Committed} {result : Error × Option Int}
    (hres : h.present answer = some (h', result)) {d : HwcDisplay F}
    (hkept : h.display.type ∈ h.validated → Kept d h.display)
    (hfirst : unchecked h.display = true → SameFrame d h.display)
    (hvalid : h.display.type ∈ h'.validated) :
    h'.display.type = h.display.type ∧ h'.validated ⊆ h.validated ∧ Kept d h'.display := by
  rw [present] at hres
  obtain ⟨⟨h₁, result₁⟩, hframe, hmap⟩ := Option.bind_eq_some_iff.mp hres
  obtain ⟨h₂, hclose, heq⟩ := Option.map_eq_some_iff.mp hmap
  obtain rfl : h₂ = h' := congrArg Prod.fst heq
  obtain ⟨htype₂, hvalidated₂, halike⟩ := closeAcquireFds_alike hclose
  rw [hvalidated₂] at hvalid ⊢
  split at hframe
  next hidle =>
    obtain rfl : h = h₁ := congrArg Prod.fst (Option.some.inj hframe)
    exact ⟨htype₂, subset_rfl, (hkept hvalid).alike halike⟩
  next hshown =>
    obtain ⟨hchecked, htype₁, hvalidated₁, hsame⟩ := presentFrame_checked hframe hvalid
    have hstart : SameFrame d h.display := by
      by_cases hasked : h.display.skipValidate = true ∧ h.display.flush = false
      · obtain ⟨htarget, hlayers⟩ := clean_of_canSkipValidate hbooks (hchecked hasked.1 hasked.2)
        exact (hkept (hvalidated₁ hvalid)).sameFrame htarget hlayers
      · have hopen : h.display.skipValidate = false ∨ h.display.flush = true := by
          rwa [not_and_or, Bool.not_eq_true, Bool.not_eq_false] at hasked
        exact hfirst (by simpa [unchecked, hshown] using hopen)
    exact ⟨htype₂.trans htype₁, hvalidated₁, (hstart.trans hsame).kept.alike halike⟩

end Composer

namespace Session

open Composer (SameFrame Kept unchecked)

variable {s s' : Session F} {current : Int → Int}

/-- The display is there, and as long as its validation stands it is as it was, but for what asks for
another. -/
def KeptFrom (type : DisplayType) (d : HwcDisplay F) (s : Session F) : Prop :=
  ∃ d', s.displays type = some d' ∧ (type ∈ s.validated → Kept d d')

/-- A frame that is not checked is as it was. -/
def FirstFrame (type : DisplayType) (d : HwcDisplay F) (s : Session F) (event : DisplayType × Call F) : Prop :=
  event.1 = type → event.2.Presents → ∀ d', s.displays type = some d' → unchecked d' = true → SameFrame d d'

/-- A call to this display. -/
theorem KeptFrom.own {type : DisplayType} {d d₁ : HwcDisplay F} (hsound : s.Sound)
    (hd₁ : s.displays type = some d₁) (hkept : type ∈ s.validated → Kept d d₁) {call : Call F}
    (hrestarts : ¬ call.Restarts) (hfirst : s.FirstFrame type d (type, call)) {h : Composer F}
    (hres : (s.view d₁).call current call = some h) : type ∈ h.validated → Kept d h.display := by
  obtain ⟨rfl, hgood⟩ := hsound type d₁ hd₁
  intro hvalid
  by_cases hpresents : call.Presents
  · cases call with
    | present answer =>
      obtain ⟨result, hres⟩ := Composer.of_map_fst hres
      exact (Composer.present_kept hgood.books hres hkept (hfirst rfl trivial d₁ hd₁) hvalid).2.2
    | _ => exact hpresents.elim
  · have hstands := Composer.call_stands hrestarts hpresents hres
    exact (hkept (hstands.validated hvalid)).alike (hstands.alike hvalid)

/-- A call to this display or to another. -/
theorem KeptFrom.call {type : DisplayType} {d : HwcDisplay F} (hkept : s.KeptFrom type d) (hsound : s.Sound)
    {event : DisplayType × Call F} (hrestarts : event.1 = type → ¬ event.2.Restarts)
    (hfirst : s.FirstFrame type d event) (hcall : s.step current event = some s') :
    s'.KeptFrom type d := by
  obtain ⟨d₁, hd₁, hkept⟩ := hkept
  -- Another display may take the validation back, but it does not give it.
  have hother (hsame : s'.displays type = s.displays type)
      (hvalidated : type ∈ s'.validated → type ∈ s.validated) : s'.KeptFrom type d :=
    ⟨d₁, hsame.trans hd₁, fun hmem => hkept (hvalidated hmem)⟩
  by_cases hevent : event.1 = type
  · obtain ⟨_, hnone, -⟩ | rfl | ⟨d', hdestroy, -, -⟩ | ⟨d', h', hd', hres, rfl⟩ := call_cases hcall
    · rw [hevent, hd₁] at hnone
      cases hnone
    · exact ⟨d₁, hd₁, hkept⟩
    · have hno := hrestarts hevent
      rw [hdestroy] at hno
      exact (hno trivial).elim
    · obtain rfl : d₁ = d' := Option.some.inj (hd₁.symm.trans (hevent ▸ hd'))
      refine ⟨h'.display, by simp [Session.put, hevent], ?_⟩
      obtain ⟨_, call⟩ := event
      obtain rfl : _ = type := hevent
      exact KeptFrom.own hsound hd₁ hkept (hrestarts rfl) hfirst hres
  · obtain ⟨_, -, rfl⟩ | rfl | ⟨d', -, -, hdestroy⟩ | ⟨d', h', hd', hres, rfl⟩ := call_cases hcall
    · exact hother (Function.update_of_ne (Ne.symm hevent) _ _) fun hmem => absurd hmem (Finset.notMem_empty _)
    · exact ⟨d₁, hd₁, hkept⟩
    · obtain ⟨r, -, rfl⟩ := Option.map_eq_some_iff.mp hdestroy
      exact hother (Function.update_of_ne (Ne.symm hevent) _ _) id
    · have hfollows := Composer.follows_of_call (hsound event.1 d' hd').2 hres
      refine hother (Function.update_of_ne (Ne.symm hevent) _ _) (hfollows.others type ?_)
      exact fun heq => hevent ((hsound event.1 d' hd').1.symm.trans heq.symm)

/-- After a validation any calls may come, on this display and on others, among them frames that reuse the
validation. Let the display be unchanged at the frames that are not checked, which are the first one and
those that flush. If the validation of the display then still stands and no layer asks for a new one, its
layers are the same as at the start, in the same order, and none of their tracked attributes has changed. -/
theorem tracked_of_canSkipValidate (hs : Reachable current s) {type : DisplayType} {d d' : HwcDisplay F}
    (hd : s.displays type = some d) {events : List (DisplayType × Call F)}
    (hrestarts : ∀ event ∈ events, event.1 = type → ¬ event.2.Restarts)
    (hfirst : Library.TryStepsMeet (Session.step current) (FirstFrame type d) s events)
    (hrun : Library.tryRun (Session.step current) s events = some s') (hd' : s'.displays type = some d')
    (hvalid : type ∈ s'.validated) {active : Bool} (hskip : (s'.view d').canSkipValidate active = true) :
    d'.layerSet = d.layerSet ∧ d'.clientTarget.tracked = d.clientTarget.tracked ∧
      ∀ id, (d'.layers id).map HwcLayer.tracked = (d.layers id).map HwcLayer.tracked := by
  obtain ⟨hsound', d₁, hd₁, hkept⟩ : s'.Sound ∧ s'.KeptFrom type d :=
    Library.tryRun_invariant_of_meets (fun s' => s'.Sound ∧ s'.KeptFrom type d)
      (fun s₁ s₂ event hevent hs₁ hguard hcall =>
        ⟨hs₁.1.of_call hcall, hs₁.2.call hs₁.1 (hrestarts event hevent) hguard hcall⟩)
      ⟨sound_of_reachable hs, d, hd, fun _ => SameFrame.refl.kept⟩ hfirst hrun
  obtain rfl : d₁ = d' := Option.some.inj (hd₁.symm.trans hd')
  obtain ⟨htarget, hlayers⟩ := Composer.clean_of_canSkipValidate (hsound' type d₁ hd').2.books hskip
  obtain ⟨horder, htracked, hsame⟩ := (hkept hvalid).sameFrame htarget hlayers
  exact ⟨horder, htracked, hsame⟩

/-- A layer is moved between the second `Validate` and its `Present`: the move is forgotten with the frame,
and the next frame reuses a validation that has never seen it. -/
example : (Library.tryRun (Session.step id) ({} : Session Rat) (firstFrame ++
    [(.primary, .validate { prepared := { error := .none, composition := fun _ => .sde } }),
      (.primary, .layerFunction 2 (.setLayerDisplayFrame ⟨0, 0, 7, 99⟩)),
      (.primary, .present { error := .none, releaseFence := fun _ => 22, retireFence := 23 })])).any
    (fun s => (s.displays .primary).any fun d => decide (.primary ∈ s.validated) && d.skipValidate &&
      (s.view d).canSkipValidate false && (d.layers 2).any fun l => l.layer.dstRect == ⟨0, 0, 7, 99⟩) =
    true := by
  decide +kernel

/-- A layer with a buffer, and the validation of the display. -/
def firstValidation : List (DisplayType × Call F) := firstFrame.take 4

/-- The frame is presented, and the layer is given a new buffer of the same kind. -/
def sameBuffer : List (DisplayType × Call F) :=
  [(.primary, .present { error := .none, releaseFence := fun _ => 20, retireFence := 21 }),
    (.primary, .layerFunction 2 (.setLayerBuffer 12 (some (smallBuffer false)) 13))]

/-- A new buffer of the same kind reuses the validation, and nothing is different from it. -/
theorem tracked_of_canSkipValidate_buffer : ∃ (s s' : Session Rat) (d d' : HwcDisplay Rat),
    (Reachable id s ∧ s.displays .primary = some d ∧
      Library.tryRun (Session.step id) s sameBuffer = some s' ∧ s'.displays .primary = some d' ∧
      .primary ∈ s'.validated ∧ (s'.view d').canSkipValidate false = true) ∧
    d'.layerSet = d.layerSet ∧ d'.clientTarget.tracked = d.clientTarget.tracked ∧
      ∀ id, (d'.layers id).map HwcLayer.tracked = (d.layers id).map HwcLayer.tracked := by
  let next (s' : Session Rat) : Bool := (s'.displays .primary).any fun d =>
    decide (.primary ∈ s'.validated ∧ (s'.view d).canSkipValidate false = true)
  let test (s : Session Rat) : Bool := (s.displays .primary).isSome &&
    (Library.tryRun (Session.step id) s sameBuffer).any next
  obtain ⟨s, hs, htest⟩ : ∃ s : Session Rat, Reachable id s ∧ test s = true :=
    Library.Reaches.of_any firstValidation test (by decide +kernel)
  obtain ⟨hdisplay, hrun⟩ := Bool.and_eq_true_iff.mp htest
  obtain ⟨d, hd⟩ := Option.isSome_iff_exists.mp hdisplay
  obtain ⟨s', hs', hnext⟩ := Option.any_eq_true _ _ |>.mp hrun
  obtain ⟨d', hd', hskip⟩ := Option.any_eq_true _ _ |>.mp hnext
  obtain ⟨hvalid, hskip⟩ := of_decide_eq_true hskip
  have hrestarts : ∀ event ∈ sameBuffer (F := Rat), event.1 = .primary → ¬ event.2.Restarts := by
    simp [sameBuffer, Call.Restarts]
  have hfirst : Library.TryStepsMeet (Session.step id) (FirstFrame .primary d) s sameBuffer := by
    refine ⟨fun _ _ d₁ hd₁ _ => ?_, fun _ _ => ⟨fun _ hpresents => hpresents.elim, fun _ _ => trivial⟩⟩
    obtain rfl := Option.some.inj (hd.symm.trans hd₁)
    exact .refl
  exact ⟨s, s', d, d', ⟨hs, hd, hs', hd', hvalid, hskip⟩,
    tracked_of_canSkipValidate hs hd hrestarts hfirst hs' hd' hvalid hskip⟩

end Session

end Yoshino.Hwc
