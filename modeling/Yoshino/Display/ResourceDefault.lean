import Yoshino.Display.LayerConfig
import Yoshino.Library.Runs

/-!
# The default resource manager

`ResourceDefault` gives the source pipes of the display hardware to the displays. `Init` sorts the
hardware pipe table by type into the order of priority, VIG, RGB and DMA. `Prepare` gives back what a
display had and takes the pipes its framebuffer layer needs, one or two. A search for a pipe returns
the place of the pipe in the hardware table; `Prepare` looks its answer up among the sorted pipes.
-/

namespace Yoshino.Display

/-- `HWBlockType`, without the mark for no block. -/
inductive HWBlockType
  | primary | hdmi | writeback0 | writeback1 | writeback2
  deriving DecidableEq, Repr

/-- `PipeOwner`. -/
inductive PipeOwner
  | userMode
  | kernelMode
  deriving DecidableEq, Repr

/-- `SourcePipe`; a pipe whose block is `kHWBlockMax` belongs to no block. -/
structure SourcePipe where
  type : PipeType := .unused
  owner : PipeOwner := .userMode
  mdssPipeId : UInt32 := 0
  index : Nat := 0
  hwBlockId : Option HWBlockType := none
  priority : Nat := 0
  deriving DecidableEq, Repr

/-- `ResetState`. -/
def SourcePipe.resetState (p : SourcePipe) : SourcePipe := { p with hwBlockId := none }

/-- The pipe is given to a block. -/
def SourcePipe.giveTo (block : HWBlockType) (p : SourcePipe) : SourcePipe :=
  { p with hwBlockId := some block }

/-- Whether a pipe is a user-mode pipe of a block. -/
def SourcePipe.reservedFor (block : HWBlockType) (p : SourcePipe) : Bool :=
  p.hwBlockId = some block && p.owner = .userMode

/-- What is read of a `DisplayResourceContext`. -/
structure DisplayResourceContext where
  hwBlockId : HWBlockType
  frameCount : UInt64 := 0
  mixerAttributes : HWMixerAttributes := {}

/-- `ResourceDefault`, with the context of each block that is in use. -/
structure ResourceDefault where
  hwResInfo : HWResourceInfo
  srcPipes : List SourcePipe
  numPipe : Nat
  contexts : HWBlockType → Option DisplayResourceContext := fun _ => none

/-- The loop variables of `Init`. -/
structure Placing where
  srcPipes : List SourcePipe
  vigIndex : Nat
  rgbIndex : Nat
  dmaIndex : Nat

/-- What `Init` writes to the source pipe of an entry of the table. -/
def HWPipeCaps.place (caps : HWPipeCaps) (i : Nat) (p : SourcePipe) : SourcePipe :=
  { p with type := caps.type, index := i, mdssPipeId := caps.id }

/-- The body of the loop of `Init` over the hardware pipe table. -/
def Placing.next (t : Placing) (caps : HWPipeCaps) (i : Nat) : Placing :=
  let write (index : Nat) : List SourcePipe := t.srcPipes.modify index (caps.place i)
  match caps.type with
  | .vig => { t with srcPipes := write t.vigIndex, vigIndex := t.vigIndex + 1 }
  | .rgb => { t with srcPipes := write t.rgbIndex, rgbIndex := t.rgbIndex + 1 }
  | .dma => { t with srcPipes := write t.dmaIndex, dmaIndex := t.dmaIndex + 1 }
  | .unused | .cursor => t

/-- The loop of `Init`; a table that is shorter than the counts say ends the process. -/
def HWResourceInfo.placed (info : HWResourceInfo) (numPipe : Nat) : Option Placing :=
  (List.range numPipe).foldlM
    (fun t i => do
      let caps ← info.hwPipes[i]?
      pure (t.next caps i))
    { srcPipes := List.replicate numPipe {}
      vigIndex := 0
      rgbIndex := info.numVigPipe
      dmaIndex := info.numVigPipe + info.numRgbPipe }

/-- The limits of `Init` for a scaling that is not set. -/
def HWResourceInfo.limitScale (info : HWResourceInfo) : HWResourceInfo :=
  if info.maxScaleDown < 1 || info.maxScaleUp < 1 then { info with maxScaleDown := 1, maxScaleUp := 1 }
  else info

/-- The pipe belongs to the splash screen of the kernel. -/
def SourcePipe.keep (p : SourcePipe) : SourcePipe := { p with owner := .kernelMode }

/-- `Init`. -/
def HWResourceInfo.init (info : HWResourceInfo) : Option ResourceDefault := do
  let numPipe := info.numVigPipe + info.numRgbPipe + info.numDmaPipe
  if numPipe = 0 then none
  else
    let t ← info.placed numPipe
    let prioritized := t.srcPipes.mapIdx fun i p => { p with priority := i }
    let rgbIndex := info.numVigPipe
    some
      { hwResInfo := info.limitScale
        srcPipes := (prioritized.modify rgbIndex SourcePipe.keep).modify (rgbIndex + 1) SourcePipe.keep
        numPipe }

namespace ResourceDefault

/-- `src_pipes_[i]`. -/
def srcPipe (s : ResourceDefault) (i : Nat) : SourcePipe := s.srcPipes.getD i {}

/-- The user-mode pipe at a place is taken by a block. -/
def reserve (s : ResourceDefault) (i : Nat) (block : HWBlockType) : ResourceDefault :=
  { s with srcPipes := s.srcPipes.modify i (SourcePipe.giveTo block) }

/-- Whether the pipe at a place is free for the user mode. -/
def isFree (s : ResourceDefault) (i : Nat) : Bool :=
  (s.srcPipe i).owner = .userMode && (s.srcPipe i).hwBlockId = none

/-- `SearchPipe` among the pipes from a place on; it returns the hardware table's index. -/
def searchPipe (s : ResourceDefault) (block : HWBlockType) (start numPipe : Nat) :
    Nat × ResourceDefault :=
  match (List.range' start numPipe).find? s.isFree with
  | some i => ((s.srcPipe i).index, s.reserve i block)
  | none => (s.numPipe, s)

/-- `NextPipe`. -/
def nextPipe (s : ResourceDefault) (type : PipeType) (block : HWBlockType) : Nat × ResourceDefault :=
  let info := s.hwResInfo
  match type with
  | .vig => s.searchPipe block 0 info.numVigPipe
  | .rgb => s.searchPipe block info.numVigPipe info.numRgbPipe
  | _ => s.searchPipe block (info.numVigPipe + info.numRgbPipe) info.numDmaPipe

/-- `GetPipe`. -/
def getPipe (s : ResourceDefault) (block : HWBlockType) (needScale : Bool) : Nat × ResourceDefault :=
  let (index, s) := if !needScale then s.nextPipe .dma block else (s.numPipe, s)
  let (index, s) :=
    if s.numPipe ≤ index && (!needScale || !s.hwResInfo.hasNonScalarRgb) then s.nextPipe .rgb block
    else (index, s)
  if s.numPipe ≤ index then s.nextPipe .vig block else (index, s)

/-- The loop of `Prepare` and `Purge` that gives back the user-mode pipes of a block. -/
def release (s : ResourceDefault) (block : HWBlockType) : ResourceDefault :=
  { s with srcPipes := s.srcPipes.map fun p => if p.reservedFor block then p.resetState else p }

end ResourceDefault

/-- How `Prepare` ends: in its checks, for want of a pipe or of a decimation, or with the pipes. -/
inductive Exit
  /-- There is no layer, and `at` ends the process. -/
  | aborted
  /-- An error is returned before any pipe is touched. -/
  | refused (error : DisplayError)
  /-- An error is returned from taking the pipes. -/
  | failed (error : DisplayError)
  /-- `kErrorNone` is returned. -/
  | reserved
  deriving DecidableEq, Repr

/-- What `Prepare` returns and leaves. -/
structure Prepared (F : Type) where
  exit : Exit
  resource : ResourceDefault
  config : HWLayerConfig F

variable {F : Type} [FloatArith F]

namespace ResourceDefault

/-- The search of `Prepare` for the left pipe. -/
def leftPipe (s : ResourceDefault) (block : HWBlockType) (c : HWLayerConfig F) : Nat × ResourceDefault :=
  if c.leftPipe.valid then s.getPipe block (isScalingNeeded c.leftPipe) else (s.numPipe, s)

/-- A single pipe is assigned. -/
def assignSingle (s : ResourceDefault) (leftIndex : Nat) (c : HWLayerConfig F) : HWLayerConfig F :=
  if leftIndex < s.numPipe then
    { c with leftPipe := { c.leftPipe with pipeId := (s.srcPipe leftIndex).mdssPipeId } }
  else c

/-- Dual pipes are assigned; the left side gets the pipe of higher priority. -/
def assignDual (s : ResourceDefault) (leftIndex rightIndex : Nat) (c : HWLayerConfig F) :
    HWLayerConfig F :=
  let (leftIndex, rightIndex) :=
    if (s.srcPipe rightIndex).priority < (s.srcPipe leftIndex).priority then (rightIndex, leftIndex)
    else (leftIndex, rightIndex)
  { leftPipe := { c.leftPipe with pipeId := (s.srcPipe leftIndex).mdssPipeId }
    rightPipe := { c.rightPipe with pipeId := (s.srcPipe rightIndex).mdssPipeId } }

/-- The part of `Prepare` for a layer that needs a right pipe too. -/
def acquireRight (s : ResourceDefault) (block : HWBlockType) (leftIndex : Nat)
    (c : HWLayerConfig F) : Prepared F :=
  let (rightIndex, s) := s.getPipe block (isScalingNeeded c.rightPipe)
  if s.numPipe ≤ rightIndex then ⟨.failed .resources, s, c⟩
  else
    let c := s.assignDual leftIndex rightIndex c
    match setDecimationFactor s.hwResInfo c.rightPipe with
    | (.error _, rightPipe) => ⟨.failed .resources, s, { c with rightPipe }⟩
    | (.ok (), rightPipe) => ⟨.reserved, s, { c with rightPipe }⟩

/-- The part of `Prepare` that takes the pipes; on an error it leaves what it has. -/
def acquire (s : ResourceDefault) (block : HWBlockType) (c : HWLayerConfig F) : Prepared F :=
  let (leftIndex, s) := (s.release block).leftPipe block c
  if c.leftPipe.valid && s.numPipe ≤ leftIndex then ⟨.failed .resources, s, c⟩
  else match setDecimationFactor s.hwResInfo c.leftPipe with
    | (.error _, leftPipe) => ⟨.failed .resources, s, { c with leftPipe }⟩
    | (.ok (), leftPipe) =>
      let c := { c with leftPipe }
      if c.rightPipe.valid then s.acquireRight block leftIndex c
      else ⟨.reserved, s, s.assignSingle leftIndex c⟩

/-- `Prepare`. -/
def prepare (s : ResourceDefault) (ctx : DisplayResourceContext) (layers : List (Layer F))
    (c : HWLayerConfig F) : Prepared F :=
  match layers with
  | [] => ⟨.aborted, s, c⟩
  | _ :: _ :: _ => ⟨.refused .resources, s, c⟩
  | [layer] =>
    if layer.composition ≠ .gpuTarget then ⟨.refused .parameters, s, c⟩
    else match config s.hwResInfo ctx.mixerAttributes layer c with
      | (.error e, c) => ⟨.refused e, s, c⟩
      | (.ok (), c) => s.acquire ctx.hwBlockId c

/-- The contexts when that of one block has changed. -/
def setContext (s : ResourceDefault) (block : HWBlockType) (ctx : Option DisplayResourceContext) :
    ResourceDefault :=
  { s with contexts := fun b => if b = block then ctx else s.contexts b }

/-- The loop of `PostCommit` that hands the kernel-mode pipes of a block over to the user mode. -/
def handoff (s : ResourceDefault) (block : HWBlockType) : ResourceDefault :=
  { s with srcPipes := s.srcPipes.map fun p =>
      if p.hwBlockId = some block && p.owner = .kernelMode then { p with owner := .userMode } else p }

/-- `PostCommit`; the pipes of the splash screen are to be handed over with the first frame. -/
def postCommit (s : ResourceDefault) (ctx : DisplayResourceContext) : ResourceDefault :=
  let s := if ctx.frameCount = 0 && ctx.hwBlockId = .primary then s.handoff ctx.hwBlockId else s
  s.setContext ctx.hwBlockId (some { ctx with frameCount := ctx.frameCount + 1 })

end ResourceDefault

/-- `DisplayType`. -/
inductive DisplayType
  | primary | hdmi | virtual
  deriving DecidableEq, Repr

/-- The block of `RegisterDisplay` for a type of display. -/
def DisplayType.block : DisplayType → Option HWBlockType
  | primary => some .primary
  | hdmi => some .hdmi
  | virtual => none

/-- The calls of the resource manager; a display is known by its block. -/
inductive ResourceEvent (F : Type)
  | registerDisplay (type : DisplayType) (mixer : HWMixerAttributes)
  | unregisterDisplay (block : HWBlockType)
  | reconfigureDisplay (block : HWBlockType) (mixer : HWMixerAttributes)
  | prepare (block : HWBlockType) (layers : List (Layer F)) (c : HWLayerConfig F)
  | postCommit (block : HWBlockType)
  | purge (block : HWBlockType)

/-- `RegisterDisplay`; a type without a block and a block in use are refused. -/
def ResourceDefault.registerDisplay (s : ResourceDefault) (type : DisplayType)
    (mixer : HWMixerAttributes) : Except DisplayError ResourceDefault :=
  match type.block with
  | none => throw .parameters
  | some block =>
    if (s.contexts block).isSome then throw .resources
    else pure (s.setContext block (some { hwBlockId := block, mixerAttributes := mixer }))

/-- A call for a display; one that is not registered makes no calls. -/
def ResourceDefault.call (s : ResourceDefault) (block : HWBlockType)
    (f : DisplayResourceContext → ResourceDefault) : ResourceDefault :=
  match s.contexts block with
  | some ctx => f ctx
  | none => s

/-- One call of the resource manager. -/
def ResourceDefault.step (s : ResourceDefault) : ResourceEvent F → ResourceDefault
  | .registerDisplay type mixer =>
    match s.registerDisplay type mixer with
    | .ok s' => s'
    | .error _ => s
  | .unregisterDisplay block =>
    s.call block fun ctx => (s.release ctx.hwBlockId).setContext ctx.hwBlockId none
  | .reconfigureDisplay block mixer =>
    s.call block fun ctx => s.setContext ctx.hwBlockId (some { ctx with mixerAttributes := mixer })
  | .prepare block layers c => s.call block fun ctx => (s.prepare ctx layers c).resource
  | .postCommit block => s.call block fun ctx => s.postCommit ctx
  | .purge block => s.call block fun ctx => s.release ctx.hwBlockId

end Yoshino.Display
