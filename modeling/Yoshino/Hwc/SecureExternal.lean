import Yoshino.Hwc.SessionSound

/-!
# The external display during a secure session

When a validation of the external display finds a layer that is secure, its frames are held back, and so
is the only function that would look at its layers again. Whatever the client does afterwards, the display
stays dark until it is unplugged.
-/

namespace Yoshino.Hwc

open Yoshino.Display (DisplayType FloatArith)

variable {F : Type} [FloatArith F]

namespace Composer

/-- The external display while it is dark. -/
structure Dark (h : Composer F) : Prop where
  type : h.display.type = .hdmi
  secure : h.display.secureDisplayActive = true

/-- What concerns the screen of a display. -/
structure Screen where
  type : DisplayType
  secure : Bool
  stack : LayerStack

/-- The kind of a display, whether it is held back, and its stack. -/
def screen (h : Composer F) : Screen := ⟨h.display.type, h.display.secureDisplayActive, h.display.layerStack⟩

variable {h h' : Composer F}

/-- A display with the same screen as a dark one. -/
theorem Dark.of_screen (hdark : h.Dark) (hscreen : h'.screen = h.screen) : h'.Dark where
  type := (congrArg Screen.type hscreen).trans hdark.type
  secure := (congrArg Screen.secure hscreen).trans hdark.secure

/-- Marking the layers leaves the screen. -/
theorem markLayersForGPUBypass_screen (hres : h.markLayersForGPUBypass = some h') : h'.screen = h.screen := by
  obtain ⟨layers, -, heq⟩ := Option.bind_eq_some_iff.mp hres
  rw [← Option.some.inj heq]
  rfl

/-- A dark display is not validated. -/
theorem validate_screen (hdark : h.Dark) {v : Validation} {error : Error}
    (hres : h.validate v = some (h', error)) : h'.screen = h.screen := by
  simp only [validate, hdark.type, validateExternal, hdark.secure, if_true] at hres
  obtain ⟨h₁, hmark, heq⟩ := Option.map_eq_some_iff.mp hres
  obtain ⟨rfl, -⟩ := Prod.mk.inj heq
  exact markLayersForGPUBypass_screen hmark

/-- A dark display gets no frames. -/
theorem present_screen (hdark : h.Dark) {answer : Committed} {result : Error × Option Int}
    (hres : h.present answer = some (h', result)) : h'.screen = h.screen := by
  have hidle : idle h.display = true := by simp only [idle, hdark.type, hdark.secure]
  rw [present, if_pos hidle, Option.bind_some] at hres
  obtain ⟨h₁, hclose, heq⟩ := Option.map_eq_some_iff.mp hres
  obtain ⟨rfl, -⟩ := Prod.mk.inj heq
  obtain ⟨r, -, rfl⟩ := Option.map_eq_some_iff.mp hclose
  rfl

/-- Destroying a layer leaves the screen. -/
theorem destroyLayer_screen {id : LayerId} {error : Error} (hres : h.destroyLayer id = some (h', error)) :
    h'.screen = h.screen := by
  obtain rfl | rfl | ⟨_, -, _, -, rfl⟩ := destroyLayer_cases hres <;> rfl

/-- Moving a layer leaves the screen. -/
theorem setLayerZOrder_screen {id : LayerId} {z : UInt32} {error : Error}
    (hres : h.setLayerZOrder id z = some (h', error)) : h'.screen = h.screen := by
  obtain rfl | ⟨_, -, _, -, -, rfl⟩ := setLayerZOrder_cases hres <;> rfl

/-- Setting an attribute of a layer leaves the screen. -/
theorem callLayerFunction_screen {current : Int → Int} {id : LayerId} {call : LayerCall F} {error : Error}
    (hres : h.callLayerFunction current id call = some (h', error)) : h'.screen = h.screen := by
  obtain rfl | ⟨_, _, -, -, rfl⟩ := callLayerFunction_cases hres <;> rfl

/-- Accepting the changes leaves the screen. -/
theorem acceptDisplayChanges_screen {error : Error} (hres : h.acceptDisplayChanges = some (h', error)) :
    h'.screen = h.screen := by
  obtain rfl | ⟨d, hreach, rfl⟩ := acceptDisplayChanges_cases hres
  · rfl
  · refine hreach.invariant (fun d => { h with display := d }.screen = h.screen)
      (fun d change d' hd hstep => ?_) rfl
    rw [← hd]
    obtain ⟨_, _, -, rfl⟩ | rfl | rfl := acceptChange_cases hstep <;> rfl

/-- The power mode leaves the screen. -/
theorem setPowerMode_screen (mode : PowerMode) (error : DisplayError) :
    (h.setPowerMode mode error).1.screen = h.screen := by
  rw [setPowerMode]
  split
  · rfl
  · split
    · rfl
    · cases error <;> rfl

/-- No call brings a dark display back. -/
theorem call_screen (hdark : h.Dark) {current : Int → Int} {call : Call F}
    (hres : h.call current call = some h') : h'.screen = h.screen := by
  cases call with
  | destroyLayer id =>
    obtain ⟨_, hres⟩ := of_map_fst hres
    exact destroyLayer_screen hres
  | setLayerZOrder id z =>
    obtain ⟨_, hres⟩ := of_map_fst hres
    exact setLayerZOrder_screen hres
  | layerFunction id call =>
    obtain ⟨_, hres⟩ := of_map_fst hres
    exact callLayerFunction_screen hres
  | validate validation =>
    obtain ⟨_, hres⟩ := of_map_fst hres
    exact validate_screen hdark hres
  | acceptDisplayChanges =>
    obtain ⟨_, hres⟩ := of_map_fst hres
    exact acceptDisplayChanges_screen hres
  | present answer =>
    obtain ⟨_, hres⟩ := of_map_fst hres
    exact present_screen hdark hres
  | getReleaseFences =>
    obtain ⟨_, hres⟩ := of_map_fst hres
    obtain ⟨r, -, heq⟩ := Option.map_eq_some_iff.mp hres
    rw [← (Prod.mk.inj heq).1]
    rfl
  | setClientTarget dup target acquireFence dataspace damage =>
    rw [← Option.some.inj hres, setClientTarget]
    split
    · rfl
    · split <;> rfl
  | setPowerMode mode error =>
    rw [← Option.some.inj hres]
    exact setPowerMode_screen mode error
  | setDisplayStatus status error =>
    rw [← Option.some.inj hres]
    cases status with
    | offline | online => exact setPowerMode_screen _ _
    | pause =>
      exact setPowerMode_screen (h := { h with display := { h.display with displayPaused := true } }) .off error
    | resume =>
      exact setPowerMode_screen
        (h := { h with display := { h.display with displayPaused := false, fbtValid := false } }) .on error
  | setColorTransform identity ok =>
    rw [← Option.some.inj hres, setColorTransform]
    split <;> rfl
  | forceRefreshRate rate =>
    rw [← Option.some.inj hres]
    simp only [forceRefreshRate]
    split <;> rfl
  | refresh =>
    rw [← Option.some.inj hres, refresh]
    split <;> rfl
  | createDisplay | destroyDisplay => rw [← Option.some.inj hres]
  | createLayer | toggleScreenUpdates | setDisplayAnimating | setSolidFill | resetValidation =>
    rw [← Option.some.inj hres]
    rfl

/-- Whether the content of a layer is for a secure display. -/
def secured (l : HwcLayer F) : Bool := l.layer.inputBuffer.secureDisplay

/-- Building the stack leaves the content of a layer and remembers that it is secure. -/
theorem buildLayer_secured (d : HwcDisplay F) (scan : Frame → Frame) (b : HwcDisplay.Build F)
    (l : HwcLayer F) : secured (d.buildLayer scan b l).1 = secured l ∧
      (d.buildLayer scan b l).2.secureDisplayActive = (b.secureDisplayActive || secured l) := by
  have hstart : secured (HwcDisplay.startBuild l) = secured l := by
    rw [HwcDisplay.startBuild, HwcLayer.validateAndSetCSC]
    split
    · rfl
    · split <;> rfl
  have hdrop (l : HwcLayer F) : secured (d.dropAcquire l).1 = secured l := by
    simp only [HwcDisplay.dropAcquire]
    split <;> rfl
  have hframe (frame : Frame) (l : HwcLayer F) : secured (l.setLayerDisplayFrame frame).1 = secured l := by
    simp only [HwcLayer.setLayerDisplayFrame, HwcLayer.change]
    split <;> rfl
  have hfill (l : HwcLayer F) : secured (HwcDisplay.fillLayer l) = secured l := by
    rw [HwcDisplay.fillLayer]
    split <;> rfl
  have hrate (rate : UInt32) (l : HwcLayer F) : secured (d.rateLayer rate l).1 = secured l := by
    rw [HwcDisplay.rateLayer]
    split <;> rfl
  have hmark (l : HwcLayer F) : secured (d.markLayer l) = secured l := rfl
  have hupdate (geometry : UInt32) (l : HwcLayer F) : secured (d.setUpdating geometry l) = secured l := rfl
  have hmarked : secured (d.markLayer (d.dropAcquire (HwcDisplay.startBuild l)).1) = secured l := by
    rw [hmark, hdrop, hstart]
  refine ⟨?_, congrArg (b.secureDisplayActive || ·) hmarked⟩
  simp only [HwcDisplay.buildLayer, hupdate, hrate, hfill, HwcDisplay.placeLayer, hframe, hmarked]

/-- One secure layer on the way through the layers is enough. -/
theorem forLayers_secured {d : HwcDisplay F} {scan : Frame → Frame} {ids : List LayerId}
    {layers layers' : Layers F} {b b' : HwcDisplay.Build F}
    (hloop : forLayers (d.buildLayer scan) ids layers b = some (layers', b'))
    (hsecure : b.secureDisplayActive = true ∨ ∃ id ∈ ids, (layers id).map secured = some true) :
    b'.secureDisplayActive = true := by
  induction ids generalizing layers b with
  | nil =>
    obtain ⟨-, rfl⟩ := Prod.mk.inj (Option.some.inj hloop)
    exact hsecure.resolve_right fun ⟨_, hid, _⟩ => absurd hid List.not_mem_nil
  | cons x ids ih =>
    cases hx : layers x with
    | none => simp [forLayers, hx] at hloop
    | some l =>
      simp only [forLayers, hx] at hloop
      obtain ⟨hkept, hgathered⟩ := buildLayer_secured d scan b l
      refine ih hloop ?_
      obtain hbefore | ⟨id, hid, hl⟩ := hsecure
      · exact .inl (by rw [hgathered, hbefore, Bool.true_or])
      · by_cases hsame : id = x
        · rw [hsame, hx] at hl
          exact .inl (by rw [hgathered, Option.some.inj hl, Bool.or_true])
        · refine .inr ⟨id, (List.mem_cons.mp hid).resolve_left hsame, ?_⟩
          rw [Function.update_of_ne hsame]
          exact hl

/-- A stack that is built with a secure layer makes the external display dark. -/
theorem buildLayerStack_dark (hbooks : h.outline.Books) (htype : h.display.type = .hdmi) {scan : Frame → Frame}
    (hres : h.buildLayerStack scan = some h') {id : LayerId}
    (hsecure : (h.display.layers id).map secured = some true) : h'.Dark := by
  obtain ⟨⟨layers, b⟩, hloop, hrest⟩ := Option.bind_eq_some_iff.mp hres
  obtain ⟨h₁, hten, heq⟩ := Option.bind_eq_some_iff.mp hrest
  have hid : id ∈ h.display.layerSet := by
    obtain ⟨l, hl, -⟩ := Option.map_eq_some_iff.mp hsecure
    exact (hbooks.alive id).mp (by simp [outline, Layers.marks, hl])
  have hactive : b.secureDisplayActive = true := forLayers_secured hloop (.inr ⟨id, hid, hsecure⟩)
  have htype₁ : h₁.display.type = h.display.type := by
    rw [composeTenBit] at hten
    split at hten
    · obtain ⟨_, -, heq⟩ := Option.bind_eq_some_iff.mp hten
      rw [← Option.some.inj heq]
      rfl
    · rw [← Option.some.inj hten]
      rfl
  have houtline := (setSecureDisplay_outline (h := h₁) b.secureDisplayActive).1
  rw [← Option.some.inj heq]
  exact ⟨(congrArg Outline.type houtline).trans (htype₁.trans htype),
    (congrArg Outline.secure houtline).trans hactive⟩

/-- Gathering the changes leaves the screen. -/
theorem collectChanges_screen {error : Error} (hres : h.collectChanges = some (h', error)) :
    h'.screen = h.screen := by
  obtain ⟨_, -, heq⟩ := Option.bind_eq_some_iff.mp hres
  rw [← (Prod.mk.inj (Option.some.inj heq)).1]
  rfl

/-- The answer of the display core leaves the screen. -/
theorem afterPrepare_screen {answer : DisplayError} {error : Error}
    (hres : h.afterPrepare answer = some (h', error)) : h'.screen = h.screen := by
  cases answer with
  | none => exact collectChanges_screen (h := { h with validated := insert h.display.type h.validated }) hres
  | shutDown | permission | notValidated | other =>
    obtain ⟨rfl, -⟩ := Prod.mk.inj (Option.some.inj hres)
    rfl

/-- Neither the display core nor what follows its answer changes the screen. -/
theorem prepareLayerStack_screen {answer : Prepared} {error : Error}
    (hres : h.prepareLayerStack answer = some (h', error)) : h'.screen = h.screen := by
  simp only [prepareLayerStack] at hres
  split at hres
  · rw [← (Prod.mk.inj (Option.some.inj hres)).1]
    rfl
  · split at hres
    · obtain ⟨h₁, hmark, hcollect⟩ := Option.bind_eq_some_iff.mp hres
      have hcollected : h'.screen = h₁.skipPrepared.screen := collectChanges_screen hcollect
      have hmarked : h₁.screen = h.clearChanges.screen := markLayersForGPUBypass_screen hmark
      exact hcollected.trans hmarked
    · obtain ⟨h₁, hprepare, hafter⟩ := Option.bind_eq_some_iff.mp hres
      obtain ⟨_, -, heq⟩ := Option.bind_eq_some_iff.mp hprepare
      have hprepared : h₁.screen = h.screen := by
        rw [← Option.some.inj heq]
        rfl
      exact (afterPrepare_screen hafter).trans hprepared

/-- A validation of the external display with a secure layer makes it dark. -/
theorem validate_dark (hbooks : h.outline.Books) (htype : h.display.type = .hdmi) {v : Validation}
    {error : Error} (hres : h.validate v = some (h', error)) {id : LayerId}
    (hsecure : (h.display.layers id).map secured = some true) : h'.Dark := by
  by_cases hactive : h.display.secureDisplayActive = true
  · have hdark : h.Dark := ⟨htype, hactive⟩
    exact hdark.of_screen (validate_screen hdark hres)
  · simp only [validate, htype, validateExternal, hactive] at hres
    obtain ⟨h₁, hbuild, hfinish⟩ := Option.bind_eq_some_iff.mp hres
    refine (buildLayerStack_dark hbooks htype hbuild hsecure).of_screen ?_
    rw [finishOther] at hfinish
    split at hfinish
    · rw [← (Prod.mk.inj (Option.some.inj hfinish)).1]
      rfl
    · exact prepareLayerStack_screen hfinish

end Composer

namespace Session

open Composer (Screen)

/-- The external display is there, dark, and shows this. -/
def DarkWith (screen : Screen) (s : Session F) : Prop :=
  ∃ d, s.displays .hdmi = some d ∧ (s.view d).Dark ∧ (s.view d).screen = screen

/-- A call that does not unplug the external display leaves it dark. -/
theorem DarkWith.call {screen : Screen} {s s' : Session F} (hs : s.DarkWith screen) {current : Int → Int}
    {type : DisplayType} {call : Call F} (hplugged : (type, call) ≠ (.hdmi, .destroyDisplay))
    (hcall : s.call current type call = some s') : s'.DarkWith screen := by
  obtain ⟨d, hd, hdark, hscreen⟩ := hs
  have hother (hsame : s'.displays .hdmi = s.displays .hdmi) : s'.DarkWith screen :=
    ⟨d, hsame.trans hd, ⟨hdark.type, hdark.secure⟩, hscreen⟩
  obtain ⟨settings, hnone, rfl⟩ | rfl | ⟨d', rfl, -, hdestroy⟩ | ⟨d', h, hd', hres, rfl⟩ := call_cases hcall
  · have hne : DisplayType.hdmi ≠ type := fun heq => by simp [← heq, hd] at hnone
    exact hother (Function.update_of_ne hne _ _)
  · exact ⟨d, hd, hdark, hscreen⟩
  · have hne : DisplayType.hdmi ≠ type := fun heq => hplugged (by rw [heq])
    obtain ⟨r, -, rfl⟩ := Option.map_eq_some_iff.mp hdestroy
    exact hother (Function.update_of_ne hne _ _)
  · by_cases htype : type = .hdmi
    · subst htype
      obtain rfl : d = d' := Option.some.inj (hd.symm.trans hd')
      have hkept := Composer.call_screen hdark hres
      refine ⟨h.display, by simp [Session.put], ?_, hkept.trans hscreen⟩
      exact hdark.of_screen hkept
    · exact hother (Function.update_of_ne (Ne.symm htype) _ _)

/-- Once a validation of the external display has found a secure layer, the display is dark, and no calls of
the client and of the system change what it shows, as long as it is not unplugged. -/
theorem dark_of_run {current : Int → Int} {s s₁ s' : Session F} (hs : Reachable current s) {d : HwcDisplay F}
    (hd : s.displays .hdmi = some d) {id : LayerId} {l : HwcLayer F} (hl : d.layers id = some l)
    (hsecure : l.layer.inputBuffer.secureDisplay = true) {v : Composer.Validation}
    (hvalidate : s.call current .hdmi (.validate v) = some s₁) {events : List (DisplayType × Call F)}
    (hplugged : (.hdmi, .destroyDisplay) ∉ events)
    (hrun : Library.tryRun (Session.step current) s₁ events = some s') :
    ∃ d₁ d', s₁.displays .hdmi = some d₁ ∧ s'.displays .hdmi = some d' ∧
      d₁.secureDisplayActive = true ∧ d'.secureDisplayActive = true ∧ d'.layerStack = d₁.layerStack := by
  obtain ⟨htype, hgood⟩ := sound_of_reachable hs .hdmi d hd
  simp only [Session.call, hd] at hvalidate
  obtain ⟨h, hcall, rfl⟩ := Option.map_eq_some_iff.mp hvalidate
  obtain ⟨error, hres⟩ := Composer.of_map_fst hcall
  have hfound : (d.layers id).map Composer.secured = some true := by simp [hl, Composer.secured, hsecure]
  have hdark : h.Dark := Composer.validate_dark hgood.books htype hres hfound
  have hput : (s.put .hdmi h).displays .hdmi = some h.display := by simp [Session.put]
  obtain ⟨d', hd', hdark', hscreen⟩ := Library.tryRun_invariant (DarkWith h.screen)
    (fun s s' event hevent hs hcall => hs.call (fun heq => hplugged (heq ▸ hevent)) hcall)
    ⟨h.display, hput, ⟨hdark.type, hdark.secure⟩, rfl⟩ hrun
  exact ⟨h.display, d', hput, hd', hdark.secure, hdark'.secure, congrArg Screen.stack hscreen⟩

/-- The external display with a layer for secure content. -/
def securedLayer : List (DisplayType × Call F) :=
  [(.hdmi, .createDisplay {}), (.hdmi, .createLayer),
    (.hdmi, .layerFunction 2 (.setLayerBuffer 10 (some (smallBuffer true)) 11))]

/-- The secure layer goes, and an ordinary one comes. -/
def securedLayerGoes : List (DisplayType × Call F) :=
  [(.hdmi, .destroyLayer 2), (.hdmi, .createLayer),
    (.hdmi, .validate { prepared := { error := .none, composition := fun _ => .sde } })]

/-- The secure layer is gone and another is validated, and the display is dark nevertheless. -/
theorem dark_of_run_gone : ∃ (s s₁ s' : Session Rat) (d : HwcDisplay Rat) (l : HwcLayer Rat),
    (s.displays .hdmi = some d ∧ d.layers 2 = some l ∧ l.layer.inputBuffer.secureDisplay = true ∧
      s.call id .hdmi (.validate { prepared := { error := .none, composition := fun _ => .sde } }) = some s₁ ∧
      Library.tryRun (Session.step id) s₁ securedLayerGoes = some s') ∧
    ∃ d₁ d', s₁.displays .hdmi = some d₁ ∧ s'.displays .hdmi = some d' ∧
      d₁.secureDisplayActive = true ∧ d'.secureDisplayActive = true ∧ d'.layerStack = d₁.layerStack := by
  let validate : Call Rat := .validate { prepared := { error := .none, composition := fun _ => .sde } }
  let test (s : Session Rat) : Bool :=
    ((s.displays .hdmi).any fun d => (d.layers 2).any fun l => l.layer.inputBuffer.secureDisplay) &&
      (s.call id .hdmi validate).any fun s₁ => (Library.tryRun (Session.step id) s₁ securedLayerGoes).isSome
  obtain ⟨s, hs, htest⟩ : ∃ s : Session Rat, Reachable id s ∧ test s = true :=
    Library.Reaches.of_any securedLayer test (by decide +kernel)
  obtain ⟨hdisplay, hrun⟩ := Bool.and_eq_true_iff.mp htest
  obtain ⟨d, hd, hlayer⟩ := Option.any_eq_true _ _ |>.mp hdisplay
  obtain ⟨l, hl, hsecure⟩ := Option.any_eq_true _ _ |>.mp hlayer
  obtain ⟨s₁, hvalidate, hgoes⟩ := Option.any_eq_true _ _ |>.mp hrun
  obtain ⟨s', hs'⟩ := Option.isSome_iff_exists.mp hgoes
  exact ⟨s, s₁, s', d, l, ⟨hd, hl, hsecure, hvalidate, hs'⟩,
    dark_of_run hs hd hl hsecure hvalidate (by simp [securedLayerGoes]) hs'⟩

end Session

end Yoshino.Hwc
