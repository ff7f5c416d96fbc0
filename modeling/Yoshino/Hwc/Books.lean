import Yoshino.Hwc.Session

/-!
# The books of a display

The map, the sorted set and the objects of a display tell the same story, and the stack that may be
committed holds exactly the layers that are there. All of this can be seen from an outline of the
display, which most functions leave as it is.
-/

namespace Yoshino.Hwc

open Yoshino.Display (DisplayType FloatArith)

variable {F : Type} [FloatArith F]

/-- The number and the depth of every layer. -/
def Layers.marks (layers : Layers F) (id : LayerId) : Option (LayerId × UInt32) :=
  (layers id).map fun l => (l.id, l.z)

/-- What decides which layers a display has and which of them it commits. -/
structure Outline where
  type : DisplayType
  layerSet : List LayerId
  layerMap : LayerId → Option (Option LayerId)
  marks : LayerId → Option (LayerId × UInt32)
  stack : List StackLayer
  filled : Bool
  paused : Bool
  secure : Bool
  changed : List LayerId
  nextId : LayerId

/-- The outline of a display. -/
def Composer.outline (h : Composer F) : Outline where
  type := h.display.type
  layerSet := h.display.layerSet
  layerMap := h.display.layerMap
  marks := h.display.layers.marks
  stack := h.display.layerStack.layers
  filled := h.display.solidFillLayer.isSome
  paused := h.display.displayPaused
  secure := h.display.secureDisplayActive
  changed := h.display.layerChanges.map Prod.fst
  nextId := h.nextId

namespace Outline

/-- The depth of a layer. -/
def z (o : Outline) (id : LayerId) : UInt32 := ((o.marks id).map Prod.snd).getD 0

/-- Whether the display shows nothing for now. -/
def idle (o : Outline) : Bool :=
  match o.type with
  | .hdmi => o.secure
  | .primary | .virtual => o.paused

/-- The books agree: the set is sorted and has every layer once, and the map knows exactly these layers.
Entries without a layer are numbers of layers that are gone. -/
structure Books (o : Outline) : Prop where
  nodup : o.layerSet.Nodup
  sorted : o.layerSet.Pairwise fun a b => o.z a ≤ o.z b
  alive : ∀ id, (o.marks id).isSome ↔ id ∈ o.layerSet
  number : ∀ id mark, o.marks id = some mark → mark.1 = id
  mapped : ∀ id ∈ o.layerSet, o.layerMap id = some (some id)
  entry : ∀ id pointer, o.layerMap id = some (some pointer) → pointer = id ∧ id ∈ o.layerSet
  used : ∀ id, (o.layerMap id).isSome → id < o.nextId
  changed : ∀ id ∈ o.changed, id < o.nextId

/-- The stack has the layers of the display, and the client target. -/
def Plain (o : Outline) : Prop :=
  o.stack.Perm (o.layerSet.map StackLayer.layer ++ [StackLayer.clientTarget])

/-- The stack has a fill that covers the display, and the client target. -/
def Filled (o : Outline) : Prop := o.stack = [.solidFill, .clientTarget] ∧ o.filled = true

/-- The stack may be committed. -/
def Current (o : Outline) : Prop := o.Plain ∨ o.Filled

/-- The layers a stack points to. -/
def stackIds (o : Outline) : List LayerId := LayerStack.ids { layers := o.stack }

/-- The layers of the set are there. -/
theorem Books.isSome {o : Outline} (h : o.Books) {id : LayerId} (hid : id ∈ o.layerSet) :
    (o.marks id).isSome := (h.alive id).mpr hid

/-- Books do not depend on the stack and on what the display shows. -/
theorem Books.of_stack {o : Outline} (h : o.Books) (stack : List StackLayer) (filled paused secure : Bool) :
    { o with stack := stack, filled := filled, paused := paused, secure := secure }.Books :=
  ⟨h.nodup, h.sorted, h.alive, h.number, h.mapped, h.entry, h.used, h.changed⟩

/-- The layers of the display may have changed. -/
theorem Books.of_changed {o : Outline} (h : o.Books) {changed : List LayerId} (hmem : changed ⊆ o.layerSet) :
    { o with changed := changed }.Books where
  nodup := h.nodup
  sorted := h.sorted
  alive := h.alive
  number := h.number
  mapped := h.mapped
  entry := h.entry
  used := h.used
  changed id hid := h.used id (by simp [h.mapped id (hmem hid)])

/-- A stack that may be committed points to layers that are there. -/
theorem Current.mem_layerSet {o : Outline} (h : o.Current) {id : LayerId} (hid : id ∈ o.stackIds) :
    id ∈ o.layerSet := by
  have hmem : StackLayer.layer id ∈ o.stack := by
    simp only [stackIds, LayerStack.ids, List.mem_filterMap] at hid
    obtain ⟨x, hx, hsome⟩ := hid
    cases x <;> simp_all [StackLayer.client]
  obtain hplain | ⟨hfilled, -⟩ := h
  · simpa using hplain.mem_iff.mp hmem
  · simp [hfilled] at hmem

end Outline

section Loops

variable {α : Type} {f : α → HwcLayer F → HwcLayer F × α} {ids : List LayerId} {layers layers' : Layers F}
  {a a' : α}

/-- A loop leaves the layers that it does not go through. -/
theorem forLayers_other (hloop : forLayers f ids layers a = some (layers', a')) {id : LayerId}
    (hid : id ∉ ids) : layers' id = layers id := by
  induction ids generalizing layers a with
  | nil =>
    obtain ⟨rfl, -⟩ := Prod.mk.inj (Option.some.inj hloop)
    rfl
  | cons x ids ih =>
    obtain ⟨hne, hrest⟩ := not_or.mp (List.mem_cons.not.mp hid)
    cases hx : layers x with
    | none => simp [forLayers, hx] at hloop
    | some l =>
      simp only [forLayers, hx] at hloop
      rw [ih hloop hrest, Function.update_of_ne hne]

/-- A loop whose body leaves a part of the layers. -/
theorem forLayers_map {β : Type} {part : HwcLayer F → β} (hf : ∀ a l, part (f a l).1 = part l)
    (hloop : forLayers f ids layers a = some (layers', a')) (id : LayerId) :
    (layers' id).map part = (layers id).map part := by
  induction ids generalizing layers a with
  | nil =>
    obtain ⟨rfl, -⟩ := Prod.mk.inj (Option.some.inj hloop)
    rfl
  | cons x ids ih =>
    cases hl : layers x with
    | none => simp [forLayers, hl] at hloop
    | some l =>
      simp only [forLayers, hl] at hloop
      rw [ih hloop]
      by_cases hid : id = x
      · simp [hid, hl, hf]
      · simp [hid]

/-- A loop leaves what its body leaves of every layer. -/
theorem mapLayers_map {β : Type} {part : HwcLayer F → β} {g : HwcLayer F → HwcLayer F}
    (hloop : mapLayers g ids layers = some layers') (hg : ∀ l, part (g l) = part l) (id : LayerId) :
    (layers' id).map part = (layers id).map part := by
  obtain ⟨⟨layers', a⟩, hfor, rfl⟩ := Option.map_eq_some_iff.mp hloop
  exact forLayers_map (fun _ => hg) hfor id

/-- The marks tell which layers are there. -/
theorem isSome_marks {id : LayerId} : (layers.marks id).isSome = (layers id).isSome := by
  simp [Layers.marks]

/-- A written layer shows its own number and depth. -/
theorem marks_update (id : LayerId) (l : HwcLayer F) :
    Layers.marks (Function.update layers id (some l)) = Function.update layers.marks id (some (l.id, l.z)) := by
  funext x
  by_cases hx : x = id
  · simp [Layers.marks, hx]
  · simp [Layers.marks, hx]

/-- A loop over layers that are there, whose body keeps number and depth, and an invariant of what it
gathers. -/
theorem forLayers_gathers {P : α → Prop} (hf : ∀ a l, (f a l).1.id = l.id ∧ (f a l).1.z = l.z)
    (hlive : ∀ id ∈ ids, (layers.marks id).isSome) (hP : P a)
    (hstep : ∀ a l, ∀ id ∈ ids, layers.marks id = some (l.id, l.z) → P a → P (f a l).2) :
    ∃ layers' a', forLayers f ids layers a = some (layers', a') ∧ layers'.marks = layers.marks ∧ P a' := by
  induction ids generalizing layers a with
  | nil => exact ⟨layers, a, rfl, rfl, hP⟩
  | cons id ids ih =>
    obtain ⟨l, hl⟩ := Option.isSome_iff_exists.mp (isSome_marks.symm.trans (hlive id List.mem_cons_self))
    have hmark : layers.marks id = some (l.id, l.z) := by simp [Layers.marks, hl]
    have hkept : Layers.marks (Function.update layers id (some (f a l).1)) = layers.marks := by
      rw [marks_update, (hf a l).1, (hf a l).2]
      exact Function.update_eq_self_iff.mpr hmark.symm
    have hlive' : ∀ x ∈ ids, (Layers.marks (Function.update layers id (some (f a l).1)) x).isSome :=
      fun x hx => hkept ▸ hlive x (List.mem_cons_of_mem _ hx)
    obtain ⟨layers', a', hrest, hmarks, ha'⟩ := ih hlive' (hstep a l id List.mem_cons_self hmark hP)
      fun a l x hx => hkept ▸ hstep a l x (List.mem_cons_of_mem _ hx)
    exact ⟨layers', a', by simp only [forLayers, hl, hrest], hmarks.trans hkept, ha'⟩

/-- A loop over layers that are there comes to its end, and with a body that leaves number and depth
the marks stay. -/
theorem forLayers_marks (hf : ∀ a l, (f a l).1.id = l.id ∧ (f a l).1.z = l.z)
    (hlive : ∀ id ∈ ids, (layers.marks id).isSome) :
    ∃ layers' a', forLayers f ids layers a = some (layers', a') ∧ layers'.marks = layers.marks := by
  obtain ⟨layers', a', hloop, hmarks, -⟩ := forLayers_gathers (P := fun _ => True) (a := a) hf hlive trivial
    fun _ _ _ _ _ _ => trivial
  exact ⟨layers', a', hloop, hmarks⟩

/-- The same for a loop that only changes the layers. -/
theorem mapLayers_marks {g : HwcLayer F → HwcLayer F} (hg : ∀ l, (g l).id = l.id ∧ (g l).z = l.z)
    (hlive : ∀ id ∈ ids, (layers.marks id).isSome) :
    ∃ layers', mapLayers g ids layers = some layers' ∧ layers'.marks = layers.marks := by
  obtain ⟨layers', _, hloop, hmarks⟩ :=
    forLayers_marks (f := fun (_ : Unit) l => (g l, ())) (a := ()) (fun _ => hg) hlive
  exact ⟨layers', by simp [mapLayers, hloop], hmarks⟩

end Loops

section LayerFunctions

variable (l : HwcLayer F)

/-- Setting an attribute keeps number and depth if the write does. -/
theorem change_kept {α : Type} [BEq α] (bit : UInt32) (old new : α) {write : HwcLayer F → HwcLayer F}
    (hwrite : ∀ l, (write l).id = l.id ∧ (write l).z = l.z) :
    (l.change bit old new write).id = l.id ∧ (l.change bit old new write).z = l.z := by
  rw [HwcLayer.change]
  split
  · exact hwrite _
  · exact ⟨rfl, rfl⟩

/-- A new frame leaves number and depth. -/
theorem setLayerDisplayFrame_kept (frame : Frame) :
    (l.setLayerDisplayFrame frame).1.id = l.id ∧ (l.setLayerDisplayFrame frame).1.z = l.z :=
  change_kept l _ _ _ fun _ => ⟨rfl, rfl⟩

/-- A new dataspace leaves number and depth. -/
theorem setLayerDataspace_kept (current : Int → Int) (dataspace : Int) :
    (l.setLayerDataspace current dataspace).1.id = l.id ∧ (l.setLayerDataspace current dataspace).1.z = l.z :=
  change_kept l _ _ _ fun _ => ⟨rfl, rfl⟩

/-- The metadata of a buffer leave number and depth. -/
theorem setMetaData_kept {metadata : Metadata F} {l l' : HwcLayer F} (h : l.setMetaData metadata = some l') :
    l'.id = l.id ∧ l'.z = l.z := by
  obtain ⟨igc, -, rfl⟩ := Option.map_eq_some_iff.mp h
  exact ⟨rfl, rfl⟩

/-- A new buffer leaves number and depth. -/
theorem setLayerBuffer_kept (dup : Int) (buffer : Option (Handle F)) (acquireFence : Int) :
    (l.setLayerBuffer dup buffer acquireFence).1.id = l.id ∧
      (l.setLayerBuffer dup buffer acquireFence).1.z = l.z := by
  cases buffer with
  | none => exact ⟨rfl, rfl⟩
  | some handle =>
    simp only [HwcLayer.setLayerBuffer]
    split
    · exact ⟨rfl, rfl⟩
    · split
      · exact ⟨rfl, rfl⟩
      · split
        · exact ⟨rfl, rfl⟩
        · rename_i described hdescribed
          have hkept := setMetaData_kept hdescribed
          exact ⟨hkept.1, hkept.2⟩

/-- No function that the client may call on a layer changes its number or its depth. -/
theorem LayerCall.run_kept (current : Int → Int) (call : LayerCall F) :
    (call.run current l).1.id = l.id ∧ (call.run current l).1.z = l.z := by
  cases call with
  | setLayerBlendMode mode =>
    cases mode with
    | invalid => exact ⟨rfl, rfl⟩
    | none | premultiplied | coverage => exact change_kept l _ _ _ fun _ => ⟨rfl, rfl⟩
  | setLayerBuffer dup buffer acquireFence => exact setLayerBuffer_kept l dup buffer acquireFence
  | setLayerColor color =>
    simp only [LayerCall.run, noDescriptors, HwcLayer.setLayerColor]
    split <;> exact ⟨rfl, rfl⟩
  | setLayerDataspace dataspace => exact setLayerDataspace_kept l current dataspace
  | setLayerDisplayFrame frame => exact setLayerDisplayFrame_kept l frame
  | setCursorPosition x y => exact setLayerDisplayFrame_kept l _
  | setLayerPlaneAlpha alpha => exact change_kept l _ _ _ fun _ => ⟨rfl, rfl⟩
  | setLayerSourceCrop crop =>
    exact change_kept { l with nonIntegralSourceCrop := _ } _ _ _ fun _ => ⟨rfl, rfl⟩
  | setLayerTransform transform => exact change_kept l _ _ _ fun _ => ⟨rfl, rfl⟩
  | setLayerCompositionType _ | setLayerSurfaceDamage _ | setLayerVisibleRegion _ => exact ⟨rfl, rfl⟩

/-- The colour metadata leave number and depth. -/
theorem validateAndSetCSC_kept : l.validateAndSetCSC.id = l.id ∧ l.validateAndSetCSC.z = l.z := by
  rw [HwcLayer.validateAndSetCSC]
  split
  · exact ⟨rfl, rfl⟩
  · split <;> exact ⟨rfl, rfl⟩

/-- Building the stack leaves number and depth. -/
theorem buildLayer_kept (d : HwcDisplay F) (scan : Frame → Frame) (b : HwcDisplay.Build F) :
    (d.buildLayer scan b l).1.id = l.id ∧ (d.buildLayer scan b l).1.z = l.z := by
  have hstart : (HwcDisplay.startBuild l).id = l.id ∧ (HwcDisplay.startBuild l).z = l.z :=
    validateAndSetCSC_kept { l with layer := { l.layer with flags := HwcDisplay.requestedFlags l } }
  have hdrop (l : HwcLayer F) : (d.dropAcquire l).1.id = l.id ∧ (d.dropAcquire l).1.z = l.z := by
    simp only [HwcDisplay.dropAcquire]
    split <;> exact ⟨rfl, rfl⟩
  have hplace (l : HwcLayer F) :
      (HwcDisplay.placeLayer scan l).id = l.id ∧ (HwcDisplay.placeLayer scan l).z = l.z :=
    setLayerDisplayFrame_kept l _
  have hfill (l : HwcLayer F) : (HwcDisplay.fillLayer l).id = l.id ∧ (HwcDisplay.fillLayer l).z = l.z := by
    rw [HwcDisplay.fillLayer]
    split <;> exact ⟨rfl, rfl⟩
  have hrate (rate : UInt32) (l : HwcLayer F) :
      (d.rateLayer rate l).1.id = l.id ∧ (d.rateLayer rate l).1.z = l.z := by
    rw [HwcDisplay.rateLayer]
    split <;> exact ⟨rfl, rfl⟩
  simp only [HwcDisplay.buildLayer, HwcDisplay.setUpdating, hrate, hfill, hplace]
  exact ⟨(hdrop _).1.trans hstart.1, (hdrop _).2.trans hstart.2⟩

/-- Closing the acquire fence leaves number and depth. -/
theorem closeAcquire_kept (closed : List Int) :
    (Composer.closeAcquire closed l).1.id = l.id ∧ (Composer.closeAcquire closed l).1.z = l.z := by
  rw [Composer.closeAcquire]
  dsimp only
  split <;> exact ⟨rfl, rfl⟩

/-- Passing the release fence on leaves number and depth. -/
theorem releaseLayer_kept (flush swapIntervalZero : Bool) :
    (Composer.releaseLayer flush swapIntervalZero l).1.id = l.id ∧
      (Composer.releaseLayer flush swapIntervalZero l).1.z = l.z := by
  rw [Composer.releaseLayer]
  dsimp only
  split
  · exact ⟨rfl, rfl⟩
  · split
    · exact ⟨rfl, rfl⟩
    · split <;> exact ⟨rfl, rfl⟩

/-- The end of a frame leaves number and depth. -/
theorem postCommitLayer_kept (flush swapIntervalZero : Bool) (closed : List Int) :
    (Composer.postCommitLayer flush swapIntervalZero closed l).1.id = l.id ∧
      (Composer.postCommitLayer flush swapIntervalZero closed l).1.z = l.z := by
  have hrelease := releaseLayer_kept l.resetGeometryChanges flush swapIntervalZero
  have hclose := closeAcquire_kept (Composer.releaseLayer flush swapIntervalZero l.resetGeometryChanges).1
    (closed ++ (Composer.releaseLayer flush swapIntervalZero l.resetGeometryChanges).2)
  exact ⟨hclose.1.trans hrelease.1, hclose.2.trans hrelease.2⟩

/-- Taking a release fence leaves number and depth. -/
theorem takeFence_kept (out : List (LayerId × Int)) :
    (Composer.takeFence out l).1.id = l.id ∧ (Composer.takeFence out l).1.z = l.z := by
  rw [Composer.takeFence, HwcLayer.popReleaseFence]
  cases l.releaseFences <;> exact ⟨rfl, rfl⟩

/-- An assignment adds its own key to a map and no other. -/
theorem mem_insertKey {α : Type} {key id : LayerId} {value : α} {entries : List (LayerId × α)}
    (h : id ∈ (insertKey key value entries).map Prod.fst) : id = key ∨ id ∈ entries.map Prod.fst := by
  induction entries with
  | nil => simpa [insertKey] using h
  | cons entry rest ih =>
    rw [insertKey] at h
    split at h
    · simpa using h
    · split at h
      · rcases List.mem_cons.mp h with h | h
        · exact .inl h
        · exact .inr (List.mem_cons_of_mem _ h)
      · rcases List.mem_cons.mp h with h | h
        · exact .inr (List.mem_cons.mpr (.inl h))
        · exact (ih h).imp_right (List.mem_cons_of_mem _)

/-- Only layers that the loop has seen are changed. -/
theorem collectChange_changed (b : List (LayerId × Composition) × List LayerId) {id : LayerId}
    (h : id ∈ (Composer.collectChange b l).2.1.map Prod.fst) : id = l.id ∨ id ∈ b.1.map Prod.fst := by
  simp only [Composer.collectChange] at h
  split at h
  · exact mem_insertKey h
  · exact .inr h

end LayerFunctions

end Yoshino.Hwc
