import Yoshino.Display.Acquisition

/-!
# Which pipes a display is left with

`Prepare` is to leave a display exactly the pipes whose ids it has stored, or none if it could not take
them. It does so where the acquisition for the layer is exact. That can fail in any state for a table
that is not in order of priority, and for every table when the pipes run out between the left side and
the right.
-/

namespace Yoshino.Display

variable {F : Type} [FloatArith F]

namespace ResourceDefault

variable {info : HWResourceInfo} {s : ResourceDefault}

/-- The configuration with which `Prepare` goes on to the pipes. -/
def accepted (s : ResourceDefault) (ctx : DisplayResourceContext) (layers : List (Layer F))
    (c : HWLayerConfig F) : Option (HWLayerConfig F) :=
  match layers with
  | [layer] =>
    if layer.composition ≠ .gpuTarget then none
    else match config s.hwResInfo ctx.mixerAttributes layer c with
      | (.error _, _) => none
      | (.ok (), c) => some c
  | _ => none

/-- `Prepare` goes on to the pipes with an accepted configuration, or it leaves all of them alone. -/
theorem prepare_cases (s : ResourceDefault) (ctx : DisplayResourceContext) (layers : List (Layer F))
    (c : HWLayerConfig F) :
    (∃ c', s.accepted ctx layers c = some c' ∧ c'.leftPipe.valid = true ∧
        s.prepare ctx layers c = s.acquire ctx.hwBlockId c') ∨
      (s.accepted ctx layers c = none ∧ (s.prepare ctx layers c).resource = s ∧
        ((s.prepare ctx layers c).exit = .aborted ∨
          ∃ error, (s.prepare ctx layers c).exit = .refused error)) := by
  rcases layers with _ | ⟨layer, _ | ⟨second, rest⟩⟩
  · exact .inr ⟨rfl, rfl, .inl rfl⟩
  · unfold prepare accepted
    dsimp only
    split
    · exact .inr ⟨rfl, rfl, .inr ⟨_, rfl⟩⟩
    · cases hconfig : config s.hwResInfo ctx.mixerAttributes layer c with
      | mk error c' =>
        cases error with
        | error e => exact .inr ⟨rfl, rfl, .inr ⟨_, rfl⟩⟩
        | ok u => exact .inl ⟨c', rfl, config_valid hconfig, rfl⟩
  · exact .inr ⟨rfl, rfl, .inr ⟨_, rfl⟩⟩

/-- In a state with the layout of its table `Prepare` is exact just where the acquisition is. -/
theorem LaidOut.prepare_iff (h : s.LaidOut info) (hinfo : info.Consistent)
    (ctx : DisplayResourceContext) (layers : List (Layer F)) (c : HWLayerConfig F) :
    (s.prepare ctx layers c).ReservesExactly ctx.hwBlockId ↔
      ∀ c', s.accepted ctx layers c = some c' →
        ((s.release ctx.hwBlockId).acquisition ctx.hwBlockId c').Exact info := by
  obtain ⟨c', haccepted, hleft, hprepare⟩ | ⟨hrefused, -, hexit⟩ := s.prepare_cases ctx layers c
  · rw [hprepare, (acquire_realizes h hinfo _ hleft).reservesExactly_iff, haccepted]
    simp
  · have hexact : (s.prepare ctx layers c).ReservesExactly ctx.hwBlockId := by
      constructor
      · intro hreserved
        rcases hexit with hexit | ⟨error, hexit⟩ <;> simp [hexit] at hreserved
      · intro error hfailed
        rcases hexit with hexit | ⟨error, hexit⟩ <;> simp [hexit] at hfailed
    simp [hexact, hrefused]

/-- With a table in order of priority every success is exact. -/
theorem LaidOut.reserved_perm_stored (h : s.LaidOut info) (hinfo : info.Consistent)
    (hsorted : info.priorityOrder = info.hwPipes.zipIdx) (ctx : DisplayResourceContext)
    (layers : List (Layer F)) (c : HWLayerConfig F)
    (hexit : (s.prepare ctx layers c).exit = .reserved) :
    ((s.prepare ctx layers c).resource.reservedIds ctx.hwBlockId).Perm
      (s.prepare ctx layers c).config.storedIds := by
  obtain ⟨c', -, hleft, hprepare⟩ | ⟨-, -, hrefused⟩ := s.prepare_cases ctx layers c
  · rw [hprepare] at hexit ⊢
    have hrealizes := acquire_realizes h hinfo ctx.hwBlockId hleft
    have hsucceeds : ((s.release ctx.hwBlockId).acquisition ctx.hwBlockId c').succeeds = true := by
      by_contra hfails
      rw [hrealizes.exit, if_neg hfails] at hexit
      cases hexit
    have hplace := HWResourceInfo.inPlace_of_sorted hsorted
      (acquisition_lt (h.release ctx.hwBlockId) hinfo ctx.hwBlockId c')
    exact hrealizes.reserved.trans (((hrealizes.stored hsucceeds).trans hplace).symm)
  · rcases hrefused with hrefused | ⟨error, hrefused⟩ <;> simp [hrefused] at hexit

end ResourceDefault

/-- For every hardware pipe table and every state that is reached with it, `Prepare` leaves a display
exactly the pipes whose ids it has stored, or none after a failure to take them, if and only if all that
the layer needs is taken and stands in place or nothing is taken. -/
theorem prepare_reservesExactly_iff (info : HWResourceInfo) (hinfo : info.Consistent) :
    ∃ s₀, info.init = some s₀ ∧
      ∀ (events : List (ResourceEvent F)) (ctx : DisplayResourceContext) (layers : List (Layer F))
        (c : HWLayerConfig F),
        let s := Library.run ResourceDefault.step s₀ events
        (s.prepare ctx layers c).ReservesExactly ctx.hwBlockId ↔
          ∀ c', s.accepted ctx layers c = some c' →
            ((s.release ctx.hwBlockId).acquisition ctx.hwBlockId c').Exact info := by
  obtain ⟨s₀, hinit, hlaid⟩ := ResourceDefault.exists_init hinfo
  exact ⟨s₀, hinit, fun events ctx layers c => (hlaid.run events).prepare_iff hinfo ctx layers c⟩

/-- A framebuffer that is shown as it is. -/
def framebuffer (width height : Rat) : Layer Rat :=
  { composition := .gpuTarget, srcRect := ⟨0, 0, width, height⟩, dstRect := ⟨0, 0, width, height⟩ }

/-- A table in order of priority. -/
def sortedTable : HWResourceInfo :=
  { numVigPipe := 2, numRgbPipe := 2, numDmaPipe := 2, isSrcSplit := true
    hwPipes := [⟨.vig, 1⟩, ⟨.vig, 2⟩, ⟨.rgb, 4⟩, ⟨.rgb, 8⟩, ⟨.dma, 16⟩, ⟨.dma, 32⟩] }

/-- A wide layer gets the two DMA pipes of a table in order of priority. -/
theorem prepare_reservesExactly_sortedTable :
    sortedTable.Consistent ∧ ∃ s₀, sortedTable.init = some s₀ ∧
      let s := Library.run (ResourceDefault.step (F := Rat)) s₀ [.registerDisplay .primary {}]
      let r := s.prepare { hwBlockId := .primary } [framebuffer 3840 2160] ⟨.empty, .empty⟩
      r.exit = .reserved ∧ r.config.storedIds = [16, 32] ∧ r.ReservesExactly .primary := by
  have hinfo : sortedTable.Consistent := ⟨by decide, by decide, by decide, by decide, by decide⟩
  obtain ⟨s₀, hinit, hiff⟩ := prepare_reservesExactly_iff (F := Rat) sortedTable hinfo
  obtain rfl := Option.some.inj (hinit.symm.trans (ResourceDefault.init_eq hinfo))
  refine ⟨hinfo, _, hinit, by decide +kernel, by decide +kernel, ?_⟩
  refine (hiff [.registerDisplay .primary {}] { hwBlockId := .primary } _ _).mpr ?_
  change ∀ c' ∈ ResourceDefault.accepted _ _ _ _, _
  decide +kernel

/-- What the first frame of the primary display returns, reserves and stores. -/
def HWResourceInfo.firstFrame (info : HWResourceInfo) (layer : Layer Rat) :
    Option (Exit × List UInt32 × List UInt32) :=
  info.init.map fun s₀ =>
    let s := Library.run (ResourceDefault.step (F := Rat)) s₀ [.registerDisplay .primary {}]
    let r := s.prepare { hwBlockId := .primary } [layer] { leftPipe := .empty, rightPipe := .empty }
    (r.exit, r.resource.reservedIds .primary, r.config.storedIds)

/-- A table that begins with its DMA pipe. -/
def shuffledTable : HWResourceInfo :=
  { numVigPipe := 1, numRgbPipe := 2, numDmaPipe := 1, isSrcSplit := true
    hwPipes := [⟨.dma, 16⟩, ⟨.vig, 1⟩, ⟨.rgb, 2⟩, ⟨.rgb, 4⟩] }

/-- A table of three pipes, of which the kernel keeps two. -/
def smallTable : HWResourceInfo :=
  { numVigPipe := 1, numRgbPipe := 2, isSrcSplit := true
    hwPipes := [⟨.vig, 1⟩, ⟨.rgb, 2⟩, ⟨.rgb, 4⟩] }

/-- The DMA pipe is reserved and the id of the VIG pipe is stored; the VIG pipe stays reserved when there
is no second pipe for a wide layer. -/
theorem prepare_reserves_another :
    shuffledTable.Consistent ∧
      shuffledTable.firstFrame (framebuffer 1080 1920) = some (.reserved, [16], [1]) ∧
      smallTable.Consistent ∧
      smallTable.firstFrame (framebuffer 3840 2160) = some (.failed .resources, [1], [0, 0]) :=
  ⟨⟨by decide, by decide, by decide, by decide, by decide⟩, by decide +kernel,
    ⟨by decide, by decide, by decide, by decide, by decide⟩, by decide +kernel⟩

end Yoshino.Display
