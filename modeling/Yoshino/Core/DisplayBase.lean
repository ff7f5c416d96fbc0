import Yoshino.Core.CompManager
import Yoshino.Library.PartialRuns

/-!
# The displays

A display has a mutex of its own and shares the composition manager, whose functions are each run under
its lock. So a call of a display is cut at the calls it makes there, and between two of them the calls
of the other displays go on. What the driver answers is up to the driver. A step that ends the process,
by an index out of range or a null context, has no result.
-/

namespace Yoshino.Display

open FloatArith

/-- What is read of `HWDisplayAttributes`. -/
structure HWDisplayAttributes where
  xPixels : UInt32 := 0
  yPixels : UInt32 := 0
  fps : UInt32 := 0
  deriving DecidableEq

/-- What the driver reports of a display. -/
structure HWAttributes where
  display : HWDisplayAttributes := {}
  mixer : HWMixerAttributes := {}
  panel : HWPanelInfo := {}
  deriving DecidableEq

/-- Where the call of a display stands: before which call of the composition manager. -/
inductive Progress (F : Type)
  /-- No call is going on. -/
  | idle
  /-- In the loop of `Prepare`. -/
  | preparing
  /-- In `Commit`, before `ReConfigure`, `Commit` and `PostCommit`, and before the reconfiguration of the
  primary display. -/
  | reconfiguring (stack : LayerStack F)
  | committing (stack : LayerStack F)
  | committed
  | refreshing
  /-- In `Flush`. -/
  | purging
  /-- In `SetDisplayState`, before `ReconfigureDisplay` and `SetDisplayState`. -/
  | poweringOn
  | switching (state : DisplayState) (active : Bool)

/-- Whether no call is going on. -/
def Progress.isIdle {F : Type} : Progress F → Bool
  | idle => true
  | _ => false

/-- `DisplayBase`, with what the last call has returned and two records: what the driver has validated
last, and whether a `ReConfigure` in `Commit`, or the validation after it, has failed since. -/
structure DisplayBase (F : Type) where
  attributes : HWAttributes
  fbConfig : FrameBufferConfig
  active : Bool := false
  state : DisplayState := .off
  needsValidate : Bool := true
  hwLayers : HWLayers F
  progress : Progress F := .idle
  result : Option CoreError := none
  validated : Option (HWLayers F) := none
  unsettled : Bool := false

variable {F : Type} [FloatArith F]

namespace DisplayBase

/-- A call returns. -/
def finish (d : DisplayBase F) (result : Option CoreError) : DisplayBase F :=
  { d with progress := .idle, result := result }

/-- The layers before the target are those of the applications; without a target all of them are. -/
def countLayers (stack : LayerStack F) : HWLayersInfo F :=
  let count := stack.layers.findIdx fun l => l.composition = .gpuTarget
  { stack := stack
    appLayerCount := count
    gpuTargetIndex := if count < stack.layers.length then count else 0 }

/-- `ValidateGPUTargetParams`. -/
def validateGPUTargetParams (d : DisplayBase F) (target : StackLayer F) : Option CoreError :=
  let mixer := d.attributes.mixer
  if !target.srcRect.isValid then some .parameters
  else if !target.dstRect.isValid then some .parameters
  else
    let out := (mapRect (.domain d.fbConfig.xPixels d.fbConfig.yPixels)
      (.domain mixer.width mixer.height) target.dstRect).normalize 1 1
    if ofUInt32 mixer.width < out.width || ofUInt32 mixer.height < out.height then some .parameters
    else none

/-- `BuildLayerStackStats`, after which the target is where it was found. -/
def buildLayerStackStats (d : DisplayBase F) (stack : LayerStack F) : DisplayBase F × Option CoreError :=
  let info := countLayers stack
  let d := { d with hwLayers := { d.hwLayers with info := info } }
  (d, if info.appLayerCount = 0 then some .noAppLayers
    else if info.gpuTargetIndex = 0 then none
    else stack.layers[info.gpuTargetIndex]?.bind d.validateGPUTargetParams)

/-- The layers of the hardware are dropped. -/
def clearLayers (d : DisplayBase F) : DisplayBase F :=
  { d with hwLayers := { d.hwLayers with info := { d.hwLayers.info with hwLayers := [] } } }

end DisplayBase

/-- The displays with the composition manager they share. -/
structure Core (F : Type) where
  manager : CompManager
  displays : DisplayType → Option (DisplayBase F) := fun _ => none

/-- What the driver answers in a step: an error of the call, and what it reports of the display. -/
structure Answer where
  error : Option CoreError := none
  attributes : Except CoreError HWAttributes := .error .hardware

/-- How far the initialization of a display comes. -/
inductive Created
  /-- The driver refuses the scaling tables. -/
  | refused
  /-- The events of the driver cannot be read. -/
  | withoutEvents
  | done
  deriving DecidableEq

/-- What happens to a display: a call begins, a call goes on by one step, or the driver reports. -/
inductive Event (F : Type)
  | create (created : Created) (attributes : HWAttributes)
  | destroy
  | prepare (stack : LayerStack F) (hdr : Option CoreError)
  | commit (stack : LayerStack F)
  | flush (answer : Option CoreError)
  | setDisplayState (state : DisplayState) (answer : Option CoreError)
  | reconfigure (answer : Except CoreError HWAttributes)
  | setFrameBufferConfig (fbConfig : FrameBufferConfig) (layout : BufferLayout)
  | setCompositionState (composition : LayerComposition) (enable : Bool)
  | thermalEvent (level : Int)
  | idleTimeout
  | go (answer : Answer)

namespace Core

/-- A display and the manager are written. -/
def put (c : Core F) (type : DisplayType) (m : CompManager) (d : DisplayBase F) : Core F :=
  { manager := m, displays := Function.update c.displays type (some d) }

/-- A display is written. -/
def putDisplay (c : Core F) (type : DisplayType) (d : DisplayBase F) : Core F := c.put type c.manager d

/-- `CreateDisplay`, with `DisplayBase::Init`. A virtual display is not registered when it is created. -/
def create (c : Core F) (type : DisplayType) (created : Created) (attributes : HWAttributes) : Core F :=
  let fbConfig : FrameBufferConfig := ⟨attributes.mixer.width, attributes.mixer.height⟩
  if created = .refused then c
  else if type = .virtual then c.putDisplay type { attributes, fbConfig := {}, hwLayers := .empty }
  else match c.manager.registerDisplay type attributes.panel attributes.mixer fbConfig with
    | .error _ => c
    | .ok m =>
      if created = .withoutEvents then { c with manager := m.unregisterDisplay type }
      else c.put type m { attributes, fbConfig, hwLayers := .empty }

/-- `DestroyDisplay`, with `DisplayBase::Deinit`. -/
def destroy (c : Core F) (type : DisplayType) : Core F where
  manager := if type = .virtual then c.manager else c.manager.unregisterDisplay type
  displays := Function.update c.displays type none

/-- `Prepare` up to its loop; the displays drop the hardware layers before the checks. -/
def prepare (c : Core F) (type : DisplayType) (d : DisplayBase F) (stack : LayerStack F)
    (hdr : Option CoreError) : Option (Core F) :=
  let d := { d with hwLayers := .empty, needsValidate := true, unsettled := false }
  if !d.active then some (c.putDisplay type (d.finish (some .permission)))
  else
    let b := d.buildLayerStackStats stack
    match b.2 with
    | some e => some (c.putDisplay type (b.1.finish (some e)))
    | none =>
      match hdr with
      | some e => some (c.putDisplay type (b.1.finish (some e)))
      | none => (c.manager.prePrepare type b.1.hwLayers).map fun m =>
          c.put type m { b.1 with progress := .preparing }

/-- `Commit` up to its first call of the composition manager. -/
def commit (c : Core F) (type : DisplayType) (d : DisplayBase F) (stack : LayerStack F) : Core F :=
  if !d.active then c.putDisplay type ({ d with needsValidate := true }.finish (some .permission))
  else if d.needsValidate then c.putDisplay type (d.finish (some .notValidated))
  else if stack.attributesChanged then c.putDisplay type { d with progress := .reconfiguring stack }
  else c.putDisplay type { d with progress := .committing stack }

/-- `Flush` up to `Purge`. -/
def flush (c : Core F) (type : DisplayType) (d : DisplayBase F) (answer : Option CoreError) : Core F :=
  if !d.active then c.putDisplay type (d.finish (some .permission))
  else if answer.isSome then c.putDisplay type (d.clearLayers.finish answer)
  else c.putDisplay type { d.clearLayers with progress := .purging }

/-- `SetDisplayState` up to its first call of the composition manager. A virtual display is registered when
it is switched on, which fails. -/
def setDisplayState (c : Core F) (type : DisplayType) (d : DisplayBase F) (state : DisplayState)
    (answer : Option CoreError) : Core F :=
  if state = d.state then c.putDisplay type (d.finish none)
  else
    let d := if state = .off then d.clearLayers else d
    if answer.isSome then c.putDisplay type (d.finish answer)
    else match state with
      | .on =>
        if type = .virtual then c.putDisplay type (d.finish (some .parameters))
        else c.putDisplay type { d with progress := .poweringOn }
      | .off | .standby => c.putDisplay type { d with progress := .switching state false }
      | .doze => c.putDisplay type { d with progress := .switching state true }
      | .dozeSuspend => c.putDisplay type { d with progress := .switching state (type ≠ .primary) }

/-- `ReconfigureDisplay`: nothing is done when the driver reports what is known. -/
def reconfigureDisplay (m : CompManager) (type : DisplayType) (d : DisplayBase F) :
    Except CoreError HWAttributes → CompManager × DisplayBase F × Option CoreError
  | .error e => (m, d, some e)
  | .ok attributes =>
    if attributes = d.attributes then (m, d, none)
    else (m.reconfigureDisplay type attributes.panel attributes.mixer,
      { d with attributes := attributes }, none)

/-- The calls that end in `ReconfigureDisplay`. -/
def reconfigure (c : Core F) (type : DisplayType) (d : DisplayBase F)
    (answer : Except CoreError HWAttributes) : Core F :=
  let r := reconfigureDisplay c.manager type d answer
  c.put type r.1 (r.2.1.finish r.2.2)

/-- `SetFrameBufferConfig`. -/
def setFrameBufferConfig (c : Core F) (type : DisplayType) (d : DisplayBase F)
    (fbConfig : FrameBufferConfig) (layout : BufferLayout) : Core F :=
  let refused := fbConfig.xPixels = 0 || fbConfig.yPixels = 0 ||
    !(validateScaling (F := F) c.manager.resource.hwResInfo
      (.domain fbConfig.xPixels fbConfig.yPixels)
      (.domain d.attributes.mixer.width d.attributes.mixer.height) layout).isOk
  if refused then c.putDisplay type (d.finish (some .parameters))
  else c.put type (c.manager.reconfigureDisplay type d.attributes.panel d.attributes.mixer)
    ({ d with fbConfig := fbConfig }.finish none)

/-- The loop of `Prepare` after an attempt: an error of the resources ends it, and so does the driver when
it accepts the layers or shuts down. -/
def afterAttempt (d : DisplayBase F) : Option CoreError → Option CoreError → DisplayBase F
  | some e, _ => d.finish (some e)
  | none, none => { d with needsValidate := false, validated := some d.hwLayers }.finish none
  | none, some e => if e = .shutDown then d.finish (some e) else d

/-- The loop of `Prepare`: resources, then the driver, then the next strategy. -/
def goPreparing (c : Core F) (type : DisplayType) (d : DisplayBase F) (answer : Option CoreError) :
    Option (Core F) :=
  (c.manager.prepare type d.hwLayers).map fun p =>
    c.put type p.1 (afterAttempt { d with hwLayers := p.2.1 } p.2.2 answer)

/-- `ReConfigure` and the validation after it. -/
def goReconfiguring (c : Core F) (type : DisplayType) (d : DisplayBase F) (stack : LayerStack F)
    (answer : Option CoreError) : Option (Core F) :=
  (c.manager.reConfigure type d.hwLayers).map fun p =>
    let d := { d with hwLayers := p.2.1, unsettled := p.2.2 ≠ Exit.reserved || answer.isSome }
    c.put type p.1 (if answer.isSome then d.finish answer
      else { d with validated := some p.2.1, progress := .committing stack })

/-- The frame goes to the driver, with the buffers of the stack. -/
def goCommitting (c : Core F) (type : DisplayType) (d : DisplayBase F) (stack : LayerStack F)
    (answer : Option CoreError) : Option (Core F) :=
  if !d.hwLayers.info.hwLayers.isEmpty && stack.layers.length ≤ d.hwLayers.info.index then none
  else some (c.putDisplay type (if answer.isSome then d.finish answer else { d with progress := .committed }))

/-- A call goes on by one step. -/
def go (c : Core F) (type : DisplayType) (d : DisplayBase F) (answer : Answer) : Option (Core F) :=
  match d.progress with
  | .idle => some c
  | .preparing => c.goPreparing type d answer.error
  | .reconfiguring stack => c.goReconfiguring type d stack answer.error
  | .committing stack => c.goCommitting type d stack answer.error
  | .committed => (c.manager.postCommit type).map fun m =>
      c.put type m (if type = .primary then { d with progress := .refreshing } else d.finish none)
  | .refreshing =>
    let r := reconfigureDisplay c.manager type d answer.attributes
    some (c.put type r.1 (r.2.1.finish none))
  | .purging => (c.manager.purge type).map fun m => c.put type m ({ d with needsValidate := true }.finish none)
  | .poweringOn =>
    some (c.put type (c.manager.reconfigureDisplay type d.attributes.panel d.attributes.mixer)
      { d with progress := .switching .on true })
  | .switching state active => (c.manager.setDisplayState type state).map fun m =>
      c.put type m ({ d with active := active, state := state }.finish none)

/-- A call begins. -/
def startCall (c : Core F) (type : DisplayType) (d : DisplayBase F) : Event F → Option (Core F)
  | .destroy => some (c.destroy type)
  | .prepare stack hdr => c.prepare type d stack hdr
  | .commit stack => some (c.commit type d stack)
  | .flush answer => some (c.flush type d answer)
  | .setDisplayState state answer => some (c.setDisplayState type d state answer)
  | .reconfigure answer => some (c.reconfigure type d answer)
  | .setFrameBufferConfig fbConfig layout => some (c.setFrameBufferConfig type d fbConfig layout)
  | .setCompositionState composition enable =>
    some { c with manager := c.manager.setCompositionState type composition enable }
  | .thermalEvent level =>
    some (if type = .primary then { c with manager := c.manager.processThermalEvent type level } else c)
  | .create _ _ | .idleTimeout | .go _ => some c

/-- One event. A call waits for the display's mutex as long as another one is going on; the idle timeout
is handled without the mutex. -/
def step (c : Core F) (event : DisplayType × Event F) : Option (Core F) :=
  match c.displays event.1 with
  | none => match event.2 with
    | .create created attributes => some (c.create event.1 created attributes)
    | _ => some c
  | some d => match event.2 with
    | .go answer => c.go event.1 d answer
    | .idleTimeout =>
      some (if event.1 = .primary then { c with manager := c.manager.processIdleTimeout event.1 } else c)
    | call => if d.progress.isIdle then c.startCall event.1 d call else some c

/-- The states that events lead to, for a hardware table. -/
def Reachable (resource : ResourceDefault) (c : Core F) : Prop :=
  ∃ extMaxLayers separateRotator,
    Library.Reaches (Core.step (F := F)) { manager := { resource, extMaxLayers, separateRotator } } c

end Core

end Yoshino.Display
