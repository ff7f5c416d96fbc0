import Yoshino.Hwc.Books

/-!
# Descriptors in the layers

Buffers and fences are file descriptors. The composer receives them from the client, from `dup` and from
the display core, keeps them in the layers and in the stack, and spends each by closing it or by handing
it to the client. No function of a layer spends or keeps a descriptor that was not in the layer, or that
it did not receive.
-/

namespace Yoshino.Hwc

open Yoshino.Display (DisplayType FloatArith)

variable {F : Type} [FloatArith F]

/-- The descriptors in a layer. -/
def HwcLayer.held (l : HwcLayer F) : List Int :=
  l.releaseFences ++ [l.ionFd, l.layer.inputBuffer.acquireFenceFd, l.layer.inputBuffer.releaseFenceFd]

/-- The descriptors in the layer of a number. -/
def Layers.held (layers : Layers F) (id : LayerId) : List Int := ((layers id).map HwcLayer.held).getD []

/-- The descriptors in a display. -/
def HwcDisplay.held (d : HwcDisplay F) : List Int :=
  d.clientTarget.held ++ d.layerSet.flatMap d.layers.held ++
    d.solidFillLayer.elim [] (fun fill => [fill.inputBuffer.releaseFenceFd]) ++
    [d.layerStack.retireFenceFd]

/-- The descriptors in a session. -/
def Session.held (s : Session F) : List Int :=
  [DisplayType.primary, .hdmi, .virtual].flatMap fun type => (s.displays type).elim [] HwcDisplay.held

/-- How often a descriptor was closed or handed to the client. -/
def Ledger.spent (b : Ledger) (fd : Int) : Nat := b.closed.count fd + b.handed.count fd

section Counting

variable {fd : Int}

/-- The number for no descriptor is none. -/
theorem count_minus_one (hfd : 0 ≤ fd) : [(-1 : Int)].count fd = 0 := by
  rw [List.count_singleton]
  have hne : (-1 : Int) ≠ fd := by omega
  simp [hne]

/-- Descriptors are counted one by one. -/
theorem count_cons_eq (a : Int) (rest : List Int) :
    (a :: rest).count fd = [a].count fd + rest.count fd := by
  rw [← List.count_append]
  rfl

/-- What a layer holds of a descriptor, by the places in which it holds it. -/
theorem HwcLayer.count_held (l : HwcLayer F) : l.held.count fd = l.releaseFences.count fd +
    ([l.ionFd].count fd + ([l.layer.inputBuffer.acquireFenceFd].count fd +
      [l.layer.inputBuffer.releaseFenceFd].count fd)) := by
  rw [HwcLayer.held, List.count_append, count_cons_eq, count_cons_eq l.layer.inputBuffer.acquireFenceFd]

/-- What is spent adds up. -/
theorem Ledger.spent_add (b entries : Ledger) :
    (b.add entries).spent fd = b.spent fd + entries.spent fd := by
  simp only [Ledger.spent, Ledger.add, List.count_append]
  omega

/-- What is received adds up. -/
theorem Ledger.received_add (b entries : Ledger) :
    (b.add entries).received.count fd = b.received.count fd + entries.received.count fd := by
  simp [Ledger.add]

end Counting

section LayerFunctions

variable {fd : Int} (l : HwcLayer F)

/-- A write through `change` to something else leaves the descriptors. -/
theorem held_change {α : Type} [BEq α] (bit : UInt32) (old new : α) {write : HwcLayer F → HwcLayer F}
    (hwrite : ∀ l, (write l).held = l.held) : (l.change bit old new write).held = l.held := by
  rw [HwcLayer.change]
  split
  · exact hwrite _
  · rfl

/-- A new frame leaves the descriptors. -/
theorem held_setLayerDisplayFrame (frame : Frame) : (l.setLayerDisplayFrame frame).1.held = l.held :=
  held_change l _ _ _ fun _ => rfl

/-- A buffer brings its descriptor and its fence, and the old ones are closed. -/
theorem count_setLayerBuffer (fd dup : Int) (buffer : Option (Handle F)) (acquireFence : Int) :
    let r := l.setLayerBuffer dup buffer acquireFence
    r.2.1.spent fd + r.1.held.count fd ≤ l.held.count fd + r.2.1.received.count fd := by
  cases buffer with
  | none => simp [HwcLayer.setLayerBuffer, Ledger.spent]
  | some handle =>
    simp only [HwcLayer.setLayerBuffer]
    split
    · simp [Ledger.spent]
    · split
      · simp [Ledger.spent]
      · split
        · simp only [Ledger.spent, HwcLayer.count_held, HwcLayer.setBufferGeometry, List.count_nil]
          omega
        · rename_i described hdescribed
          obtain ⟨igc, -, rfl⟩ := Option.map_eq_some_iff.mp hdescribed
          simp only [Ledger.spent, HwcLayer.count_held, HwcLayer.setBufferContent, HwcLayer.describe,
            HwcLayer.setBufferGeometry, List.count_nil]
          rw [count_cons_eq l.ionFd, count_cons_eq dup [acquireFence]]
          omega

/-- A call of the client brings all descriptors that it makes the layer hold or spend. -/
theorem LayerCall.count_run (current : Int → Int) (call : LayerCall F) :
    let r := call.run current l
    r.2.1.spent fd + r.1.held.count fd ≤ l.held.count fd + r.2.1.received.count fd := by
  have hsame {r : HwcLayer F × Error} (hr : r.1.held = l.held) :
      (noDescriptors r).2.1.spent fd + (noDescriptors r).1.held.count fd ≤
        l.held.count fd + (noDescriptors r).2.1.received.count fd := by
    simp [noDescriptors, Ledger.spent, hr]
  cases call with
  | setLayerBuffer dup buffer acquireFence => exact count_setLayerBuffer l _ dup buffer acquireFence
  | setLayerBlendMode mode =>
    refine hsame ?_
    cases mode with
    | invalid => rfl
    | none | premultiplied | coverage => exact held_change l _ _ _ fun _ => rfl
  | setLayerColor color =>
    refine hsame ?_
    rw [HwcLayer.setLayerColor]
    split <;> rfl
  | setLayerDataspace dataspace => exact hsame (held_change l _ _ _ fun _ => rfl)
  | setLayerDisplayFrame frame => exact hsame (held_setLayerDisplayFrame l frame)
  | setCursorPosition x y => exact hsame (held_setLayerDisplayFrame l _)
  | setLayerPlaneAlpha alpha => exact hsame (held_change l _ _ _ fun _ => rfl)
  | setLayerSourceCrop crop =>
    exact hsame (held_change { l with nonIntegralSourceCrop := _ } _ _ _ fun _ => rfl)
  | setLayerTransform transform => exact hsame (held_change l _ _ _ fun _ => rfl)
  | setLayerCompositionType _ | setLayerSurfaceDamage _ | setLayerVisibleRegion _ => exact hsame rfl

/-- The beginning of a stack leaves the descriptors. -/
theorem held_startBuild : (HwcDisplay.startBuild l).held = l.held := by
  rw [HwcDisplay.startBuild, HwcLayer.validateAndSetCSC]
  split
  · rfl
  · split <;> rfl

/-- An acquire fence that is dropped is closed. -/
theorem count_dropAcquire (hfd : 0 ≤ fd) (d : HwcDisplay F) :
    (d.dropAcquire l).2.count fd + (d.dropAcquire l).1.held.count fd = l.held.count fd := by
  simp only [HwcDisplay.dropAcquire]
  split
  · simp only [HwcLayer.count_held, count_minus_one hfd]
    omega
  · simp

/-- A layer for a solid fill holds no more than before. -/
theorem count_fillLayer (hfd : 0 ≤ fd) : (HwcDisplay.fillLayer l).held.count fd ≤ l.held.count fd := by
  rw [HwcDisplay.fillLayer]
  split
  · simp only [HwcLayer.count_held, HwcDisplay.fillBuffer, count_minus_one hfd]
    omega
  · exact le_rfl

/-- The frame rate leaves the descriptors. -/
theorem held_rateLayer (d : HwcDisplay F) (rate : UInt32) : (d.rateLayer rate l).1.held = l.held := by
  rw [HwcDisplay.rateLayer]
  split <;> rfl

/-- Building the stack closes only what the layer has held. -/
theorem count_buildLayer (hfd : 0 ≤ fd) (d : HwcDisplay F) (scan : Frame → Frame) (b : HwcDisplay.Build F) :
    (d.buildLayer scan b l).2.closed.count fd + (d.buildLayer scan b l).1.held.count fd ≤
      b.closed.count fd + l.held.count fd := by
  let dropped := d.dropAcquire (HwcDisplay.startBuild l)
  let placed := HwcDisplay.placeLayer scan (d.markLayer dropped.1)
  have hdrop : dropped.2.count fd + dropped.1.held.count fd = l.held.count fd := by
    rw [← held_startBuild l]
    exact count_dropAcquire (HwcDisplay.startBuild l) hfd d
  have hplace : placed.held = dropped.1.held := held_setLayerDisplayFrame _ _
  have hfill := count_fillLayer placed hfd
  have hheld : (d.buildLayer scan b l).1.held = (HwcDisplay.fillLayer placed).held := held_rateLayer _ d _
  have hclosed : (d.buildLayer scan b l).2.closed = b.closed ++ dropped.2 := rfl
  rw [hheld, hclosed, List.count_append]
  rw [hplace] at hfill
  omega

/-- A closed acquire fence is held no more. -/
theorem count_closeAcquire (hfd : 0 ≤ fd) (closed : List Int) :
    (Composer.closeAcquire closed l).2.count fd + (Composer.closeAcquire closed l).1.held.count fd =
      closed.count fd + l.held.count fd := by
  simp only [Composer.closeAcquire]
  split
  · simp only [HwcLayer.count_held, count_minus_one hfd, List.count_append]
    omega
  · rfl

/-- A release fence that is closed is held no more, and one that is pushed is held once. -/
theorem count_releaseLayer (hfd : 0 ≤ fd) (flush swapIntervalZero : Bool) :
    (Composer.releaseLayer flush swapIntervalZero l).2.count fd +
      (Composer.releaseLayer flush swapIntervalZero l).1.held.count fd ≤ l.held.count fd := by
  simp only [Composer.releaseLayer]
  split
  · simp only [HwcLayer.count_held, HwcLayer.pushReleaseFence, List.count_append, count_minus_one hfd,
      List.count_nil]
    omega
  · split
    · simp only [HwcLayer.count_held, count_minus_one hfd]
      omega
    · split <;>
      · simp only [HwcLayer.count_held, HwcLayer.pushReleaseFence, List.count_append, count_minus_one hfd,
          List.count_nil]
        omega

/-- The end of a frame closes only what the layer has held. -/
theorem count_postCommitLayer (hfd : 0 ≤ fd) (flush swapIntervalZero : Bool) (closed : List Int) :
    (Composer.postCommitLayer flush swapIntervalZero closed l).2.count fd +
      (Composer.postCommitLayer flush swapIntervalZero closed l).1.held.count fd ≤
        closed.count fd + l.held.count fd := by
  let released := Composer.releaseLayer flush swapIntervalZero l.resetGeometryChanges
  have hrelease : released.2.count fd + released.1.held.count fd ≤ l.held.count fd :=
    count_releaseLayer l.resetGeometryChanges hfd flush swapIntervalZero
  have hclose := count_closeAcquire released.1 hfd (closed ++ released.2)
  rw [List.count_append] at hclose
  calc
    _ = closed.count fd + released.2.count fd + released.1.held.count fd := hclose
    _ ≤ closed.count fd + l.held.count fd := by omega

/-- A release fence that is handed out is held no more. -/
theorem count_takeFence (hfd : 0 ≤ fd) (out : List (LayerId × Int)) :
    ((Composer.takeFence out l).2.map Prod.snd).count fd + (Composer.takeFence out l).1.held.count fd =
      (out.map Prod.snd).count fd + l.held.count fd := by
  rw [Composer.takeFence, HwcLayer.popReleaseFence]
  cases hfences : l.releaseFences with
  | nil => simp [count_minus_one hfd]
  | cons fence rest =>
    simp only [HwcLayer.count_held, hfences, List.map_append, List.count_append, List.map_cons, List.map_nil]
    rw [count_cons_eq fence rest]
    omega

end LayerFunctions

section Loops

variable {α : Type} {f : α → HwcLayer F → HwcLayer F × α} {ids : List LayerId} {layers layers' : Layers F}
  {a a' : α} {fd : Int}

/-- A loop whose body moves descriptors between the layers and what it gathers, and may bring some for
each layer. -/
theorem forLayers_count (fd : Int) (gathered : α → Nat) (brought : LayerId → Nat)
    (hf : ∀ a l, gathered (f a l).2 + (f a l).1.held.count fd ≤
      gathered a + l.held.count fd + brought l.id)
    (hnumber : ∀ id ∈ ids, ∀ l, layers id = some l → l.id = id) (hnodup : ids.Nodup)
    (hloop : forLayers f ids layers a = some (layers', a')) :
    gathered a' + (ids.flatMap layers'.held).count fd ≤
      gathered a + (ids.flatMap layers.held).count fd + (ids.map brought).sum := by
  induction ids generalizing layers a with
  | nil =>
    obtain ⟨-, rfl⟩ := Prod.mk.inj (Option.some.inj hloop)
    simp
  | cons x ids ih =>
    obtain ⟨hx, hnodup⟩ := List.nodup_cons.mp hnodup
    cases hl : layers x with
    | none => simp [forLayers, hl] at hloop
    | some l =>
      simp only [forLayers, hl] at hloop
      let next : Layers F := Function.update layers x (some (f a l).1)
      -- The rest of the loop does not come back to this layer.
      have hnext {y : LayerId} (hy : y ∈ ids) : next y = layers y :=
        Function.update_of_ne (fun heq : y = x => hx (heq ▸ hy)) _ _
      have hheld : ids.flatMap next.held = ids.flatMap layers.held :=
        List.flatMap_congr fun y hy => by rw [Layers.held, Layers.held, hnext hy]
      have hlast : layers'.held x = (f a l).1.held := by
        simp [Layers.held, forLayers_other hloop hx]
      have hfirst : layers.held x = l.held := by simp [Layers.held, hl]
      have hrest := ih (fun y hy m hm => hnumber y (List.mem_cons_of_mem _ hy) m (hnext hy ▸ hm)) hnodup hloop
      have hhead := hf a l
      rw [hnumber x List.mem_cons_self l hl] at hhead
      rw [hheld] at hrest
      simp only [List.flatMap_cons, List.count_append, List.map_cons, List.sum_cons, hlast, hfirst]
      omega

/-- A loop whose body only moves descriptors. -/
theorem forLayers_spend (gathered : α → Nat)
    (hf : ∀ a l, gathered (f a l).2 + (f a l).1.held.count fd ≤ gathered a + l.held.count fd)
    (hnumber : ∀ id ∈ ids, ∀ l, layers id = some l → l.id = id) (hnodup : ids.Nodup)
    (hloop : forLayers f ids layers a = some (layers', a')) :
    gathered a' + (ids.flatMap layers'.held).count fd ≤
      gathered a + (ids.flatMap layers.held).count fd := by
  simpa using forLayers_count fd gathered (fun _ => 0) hf hnumber hnodup hloop

/-- A loop whose body leaves the descriptors of a layer. -/
theorem forLayers_held (hloop : forLayers f ids layers a = some (layers', a'))
    (hf : ∀ a l, (f a l).1.held = l.held) : layers'.held = layers.held := by
  funext id
  rw [Layers.held, Layers.held, forLayers_map hf hloop]

/-- A loop leaves the descriptors if its body does. -/
theorem mapLayers_held {g : HwcLayer F → HwcLayer F} (hloop : mapLayers g ids layers = some layers')
    (hg : ∀ l, (g l).held = l.held) : layers'.held = layers.held := by
  obtain ⟨⟨layers', a⟩, hfor, rfl⟩ := Option.map_eq_some_iff.mp hloop
  exact forLayers_held hfor fun _ => hg

end Loops

end Yoshino.Hwc
