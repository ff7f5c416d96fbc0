import Yoshino.Display.ResourceDefault
import Mathlib.Data.Finset.Card

/-!
# The composition manager

The composition manager stands between the displays and the resource manager. It is used without the
extension library: every frame then has a single strategy, which leaves all layers to the GPU and shows
its target, and `ResourceDefault` takes the pipes. A virtual display has no block there and cannot be
registered.
-/

namespace Yoshino.Display

open FloatArith

deriving instance DecidableEq for HWMixerAttributes

/-- `DisplayError`; the errors that only the driver has are one. -/
inductive CoreError
  | undefined
  | notSupported
  | permission
  | parameters
  | resources
  | hardware
  | shutDown
  | noAppLayers
  | notValidated
  deriving DecidableEq, Repr

/-- The errors of the resource manager. -/
def DisplayError.core : DisplayError → CoreError
  | notSupported => .notSupported
  | parameters => .parameters
  | resources => .resources

/-- What is read of the framebuffer's `DisplayConfigVariableInfo`. -/
structure FrameBufferConfig where
  xPixels : UInt32 := 0
  yPixels : UInt32 := 0
  deriving DecidableEq

/-- What is read of `HWPanelInfo`. -/
structure HWPanelInfo where
  isPrimaryPanel : Bool := false
  s3dMode : Bool := false
  deriving DecidableEq

/-- A `Layer` of a stack, with its mark for the GPU. -/
structure StackLayer (F : Type) extends Layer F where
  skip : Bool := false

/-- What is read or written of a `LayerStack`. -/
structure LayerStack (F : Type) where
  layers : List (StackLayer F) := []
  securePresent : Bool := false
  skipPresent : Bool := false
  attributesChanged : Bool := false

/-- What is read or written of `HWLayersInfo`. -/
structure HWLayersInfo (F : Type) where
  stack : LayerStack F := {}
  appLayerCount : Nat := 0
  gpuTargetIndex : Nat := 0
  hwLayers : List (Layer F) := []
  /-- The first entry of `index`. -/
  index : Nat := 0

/-- `HWLayers`, with the only configuration that is used. -/
structure HWLayers (F : Type) where
  info : HWLayersInfo F
  config : HWLayerConfig F

variable {F : Type} [FloatArith F]

/-- `HWLayers` as they are constructed. -/
def HWLayers.empty : HWLayers F := ⟨{}, ⟨.empty, .empty⟩⟩

/-- A domain from the origin. -/
def LayerRect.domain (width height : UInt32) : LayerRect F where
  left := ofUInt32 0
  top := ofUInt32 0
  right := ofUInt32 width
  bottom := ofUInt32 height

/-- `MapRect` between domains from the origin; the rectangle that is written to is the one that is read. -/
def mapRect (src dst r : LayerRect F) : LayerRect F :=
  if !src.isValid || !dst.isValid || !r.isValid then r
  else
    let widthRatio := dst.width / src.width
    let heightRatio := dst.height / src.height
    { left := dst.left + widthRatio * (r.left + ofUInt32 0)
      top := dst.top + heightRatio * (r.top + ofUInt32 0)
      right := dst.left + widthRatio * (r.right + ofUInt32 0)
      bottom := dst.top + heightRatio * (r.bottom + ofUInt32 0) }

/-- `Strategy`. Without the extension `Reconfigure` returns at once, so the attributes are those of the
registration. -/
structure Strategy where
  mixerAttributes : HWMixerAttributes
  fbConfig : FrameBufferConfig
  disableGpuComp : Bool := false

namespace Strategy

/-- `Start`: the attempts that are allowed, which stay what they were when there is no target. -/
def start (st : Strategy) (info : HWLayersInfo F) (maxAttempts : Nat) : Nat :=
  if !st.disableGpuComp && info.gpuTargetIndex = 0 then maxAttempts else 1

/-- The target as it goes to the hardware. -/
def target (st : Strategy) (layer : StackLayer F) : Layer F :=
  { layer.toLayer with
    dstRect := mapRect (.domain st.fbConfig.xPixels st.fbConfig.yPixels)
      (.domain st.mixerAttributes.width st.mixerAttributes.height) layer.dstRect }

/-- The layers of the applications are marked for the GPU. -/
def markLayers (count : Nat) (layers : List (StackLayer F)) : List (StackLayer F) :=
  (layers.take count).map (fun l => { l with composition := .gpu }) ++ layers.drop count

/-- `GetNextStrategy`; an index outside the stack ends the process. -/
def getNextStrategy (st : Strategy) (info : HWLayersInfo F) :
    Option (Except CoreError (HWLayersInfo F)) :=
  if st.disableGpuComp then some (.error .notSupported)
  else if info.stack.layers.length < info.appLayerCount then none
  else
    let layers := markLayers info.appLayerCount info.stack.layers
    layers[info.gpuTargetIndex]?.map fun layer => .ok
      { info with
        stack := { info.stack with layers := layers }
        index := info.gpuTargetIndex
        hwLayers := [st.target layer] }

end Strategy

/-- `StrategyConstraints`, without the cursor, which `ResourceDefault` never supports. -/
structure StrategyConstraints where
  safeMode : Bool := false
  maxLayers : UInt32 := 16
  deriving DecidableEq

/-- `DisplayCompositionContext`; the context of the resource manager is known by the block. -/
structure DisplayCompositionContext where
  strategy : Strategy
  constraints : StrategyConstraints := {}
  maxStrategies : Nat := 0
  remainingStrategies : Nat := 0
  idleFallback : Bool := false
  thermalFallback : Bool := false
  isPrimaryPanel : Bool := false

/-- `DisplayState`. -/
inductive DisplayState
  | off
  | on
  | doze
  | dozeSuspend
  | standby
  deriving DecidableEq, Repr

/-- `CompManager`. -/
structure CompManager where
  resource : ResourceDefault
  contexts : DisplayType → Option DisplayCompositionContext := fun _ => none
  registeredDisplays : Finset DisplayType := ∅
  configuredDisplays : Finset DisplayType := ∅
  safeMode : Bool := false
  secureExternalLayer : Bool := false
  secureExternalTransition : Bool := false
  maxLayers : UInt32 := 16
  maxSdeExtLayers : UInt32 := 0
  /-- The layers that a property allows on displays other than the primary one. -/
  extMaxLayers : UInt32 := 2
  separateRotator : Bool := false

namespace CompManager

/-- `display_resource_ctx`. -/
def resourceContext (m : CompManager) (type : DisplayType) : Option DisplayResourceContext :=
  type.block.bind m.resource.contexts

/-- The context of a display is written. -/
def setContext (m : CompManager) (type : DisplayType) (ctx : Option DisplayCompositionContext) :
    CompManager :=
  { m with contexts := Function.update m.contexts type ctx }

/-- A call of the resource manager for a display. -/
def onResource (m : CompManager) (type : DisplayType) (f : DisplayResourceContext → ResourceDefault) :
    CompManager :=
  match m.resourceContext type with
  | some ctx => { m with resource := f ctx }
  | none => m

/-- `RegisterDisplay`. -/
def registerDisplay (m : CompManager) (type : DisplayType) (panel : HWPanelInfo)
    (mixer : HWMixerAttributes) (fbConfig : FrameBufferConfig) : Except CoreError CompManager :=
  match m.resource.registerDisplay type mixer with
  | .error e => .error e.core
  | .ok resource =>
    let m := { m with resource := resource, registeredDisplays := insert type m.registeredDisplays }
    let m := m.setContext type (some
      { strategy := { mixerAttributes := mixer, fbConfig := fbConfig }
        isPrimaryPanel := panel.isPrimaryPanel })
    .ok (if panel.isPrimaryPanel then m
      else { m with safeMode := true, maxSdeExtLayers := m.extMaxLayers })

/-- `UnregisterDisplay`. -/
def unregisterDisplay (m : CompManager) (type : DisplayType) : CompManager :=
  let m := m.onResource type fun r => (m.resource.release r.hwBlockId).setContext r.hwBlockId none
  let m := m.setContext type none
  { m with
    registeredDisplays := m.registeredDisplays.erase type
    configuredDisplays := m.configuredDisplays.erase type
    maxLayers := if type = .hdmi then 16 else m.maxLayers }

/-- `ReconfigureDisplay`: for a stereoscopic external display the primary one falls back to the GPU. -/
def reconfigureDisplay (m : CompManager) (type : DisplayType) (panel : HWPanelInfo)
    (mixer : HWMixerAttributes) : CompManager :=
  let m := m.onResource type fun r =>
    m.resource.setContext r.hwBlockId (some { r with mixerAttributes := mixer })
  { m with maxLayers := if type = .hdmi then (if panel.s3dMode then 0 else 16) else m.maxLayers }

/-- Few pipes, `kSafeModeThreshold` at most. -/
def lowEndHw (m : CompManager) : Bool :=
  m.resource.hwResInfo.numVigPipe + m.resource.hwResInfo.numRgbPipe + m.resource.hwResInfo.numDmaPipe ≤ 4

/-- The part of `PrepareStrategyConstraints` for a display other than the primary one. -/
def externalConstraints (m : CompManager) (securePresent : Bool) : CompManager × StrategyConstraints :=
  let constraints : StrategyConstraints :=
    { safeMode := if m.lowEndHw && !m.separateRotator then true else m.safeMode
      maxLayers := m.maxSdeExtLayers }
  (if m.secureExternalLayer = securePresent then m
    else { m with secureExternalLayer := securePresent, secureExternalTransition := true }, constraints)

/-- A stack whose layers are all marked to be skipped. -/
def skipLayers (stack : LayerStack F) : LayerStack F :=
  { stack with
    skipPresent := true
    layers := stack.layers.map fun l => if l.composition = .gpuTarget then l else { l with skip := true } }

/-- The part of `PrepareStrategyConstraints` for the primary display next to secure content. -/
def primaryConstraints (m : CompManager) (stack : LayerStack F) :
    CompManager × StrategyConstraints × LayerStack F :=
  let constraints : StrategyConstraints := { safeMode := m.safeMode, maxLayers := m.maxLayers }
  if 1 < m.registeredDisplays.card && m.secureExternalLayer then
    if m.lowEndHw then (m, constraints, skipLayers stack)
    else if m.secureExternalTransition then
      ({ m with secureExternalTransition := false }, { constraints with safeMode := true }, stack)
    else (m, constraints, stack)
  else (m, constraints, stack)

/-- `PrepareStrategyConstraints`. -/
def prepareStrategyConstraints (m : CompManager) (ctx : DisplayCompositionContext) (stack : LayerStack F) :
    CompManager × DisplayCompositionContext × LayerStack F :=
  let r : CompManager × StrategyConstraints × LayerStack F :=
    if ctx.isPrimaryPanel then m.primaryConstraints stack
    else
      let e := m.externalConstraints stack.securePresent
      (e.1, e.2, stack)
  let fallback := ctx.remainingStrategies ≠ ctx.maxStrategies || ctx.idleFallback || ctx.thermalFallback
  (r.1, { ctx with constraints := { r.2.1 with safeMode := r.2.1.safeMode || fallback } }, r.2.2)

/-- `PrePrepare`. -/
def prePrepare (m : CompManager) (type : DisplayType) (hw : HWLayers F) : Option CompManager :=
  (m.contexts type).map fun ctx =>
    let attempts := ctx.strategy.start hw.info ctx.maxStrategies
    m.setContext type (some { ctx with maxStrategies := attempts, remainingStrategies := attempts })

/-- What the loop of `Prepare` leaves. -/
structure Attempt (F : Type) where
  resource : ResourceDefault
  hwLayers : HWLayers F
  error : Option CoreError
  remaining : Nat

/-- The loop of `Prepare` over the strategies that remain. -/
def tryStrategies (st : Strategy) (ctx : DisplayResourceContext) :
    Nat → ResourceDefault → HWLayers F → Option CoreError → Option (Attempt F)
  | 0, resource, hw, error => some ⟨resource, hw, error, 0⟩
  | count + 1, resource, hw, _ =>
    (st.getNextStrategy hw.info).bind fun
      | .error e => some ⟨resource, hw, some e, count⟩
      | .ok info =>
        let p := resource.prepare ctx info.hwLayers hw.config
        match p.exit with
        | .aborted => none
        | .reserved => some ⟨p.resource, ⟨info, p.config⟩, none, count⟩
        | .refused e | .failed e => tryStrategies st ctx count p.resource ⟨info, p.config⟩ (some e.core)

/-- `Prepare`. -/
def prepare (m : CompManager) (type : DisplayType) (hw : HWLayers F) :
    Option (CompManager × HWLayers F × Option CoreError) :=
  (m.contexts type).bind fun ctx => (m.resourceContext type).bind fun r =>
    let c := m.prepareStrategyConstraints ctx hw.info.stack
    let hw := { hw with info := { hw.info with stack := c.2.2 } }
    (tryStrategies ctx.strategy r ctx.remainingStrategies m.resource hw (some .undefined)).map fun t =>
      (({ c.1 with resource := t.resource } : CompManager).setContext type
        (some { c.2.1 with remainingStrategies := t.remaining }), t.hwLayers, t.error)

/-- `ReConfigure`, with the end of its preparation. An error of the preparation is overwritten with that
of `PostPrepare`, which has none, so that no error is returned. -/
def reConfigure (m : CompManager) (type : DisplayType) (hw : HWLayers F) :
    Option (CompManager × HWLayers F × Exit) :=
  (m.resourceContext type).bind fun r =>
    let p := m.resource.prepare r hw.info.hwLayers hw.config
    if p.exit = .aborted then none
    else some ({ m with resource := p.resource }, { hw with config := p.config }, p.exit)

/-- `PostCommit`: safe mode ends when all displays have shown a frame. -/
def postCommit (m : CompManager) (type : DisplayType) : Option CompManager :=
  (m.contexts type).map fun ctx =>
    let m := { m with configuredDisplays := insert type m.configuredDisplays }
    let m := if m.configuredDisplays = m.registeredDisplays then { m with safeMode := false } else m
    let m := m.onResource type m.resource.postCommit
    m.setContext type (some { ctx with idleFallback := false })

/-- `Purge`. -/
def purge (m : CompManager) (type : DisplayType) : Option CompManager :=
  (m.contexts type).map fun _ => m.onResource type fun r => m.resource.release r.hwBlockId

/-- `SetDisplayState`. -/
def setDisplayState (m : CompManager) (type : DisplayType) (state : DisplayState) : Option CompManager :=
  match state with
  | .off => (m.purge type).map fun m => { m with configuredDisplays := m.configuredDisplays.erase type }
  | .on => some (if 1 < m.registeredDisplays.card then { m with safeMode := true } else m)
  | _ => some m

/-- `ProcessIdleTimeout`, `ProcessThermalEvent` and `SetCompositionState` write to the context. -/
def writeContext (m : CompManager) (type : DisplayType)
    (f : DisplayCompositionContext → DisplayCompositionContext) : CompManager :=
  m.setContext type ((m.contexts type).map f)

/-- `ProcessIdleTimeout`. -/
def processIdleTimeout (m : CompManager) (type : DisplayType) : CompManager :=
  m.writeContext type fun ctx => { ctx with idleFallback := true }

/-- `ProcessThermalEvent`, with `kMaxThermalLevel`. -/
def processThermalEvent (m : CompManager) (type : DisplayType) (level : Int) : CompManager :=
  m.writeContext type fun ctx => { ctx with thermalFallback := 3 ≤ level }

/-- `SetCompositionState`. -/
def setCompositionState (m : CompManager) (type : DisplayType) (composition : LayerComposition)
    (enable : Bool) : CompManager :=
  m.writeContext type fun ctx =>
    if composition = .gpu then { ctx with strategy := { ctx.strategy with disableGpuComp := !enable } }
    else ctx

end CompManager

end Yoshino.Display
