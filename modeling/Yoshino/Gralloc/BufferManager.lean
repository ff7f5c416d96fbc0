import Mathlib.Data.Finset.Basic
import Yoshino.Gralloc.Handles

/-!
# The buffer manager

`AllocateBuffers` of the gralloc buffer manager: descriptors are validated and resolved, the
allocator decides whether one buffer can back all of them, and each buffer takes a main and a
metadata allocation from ion before its handle is registered. The kernel answers every allocation as
it likes.
-/

namespace Yoshino.Gralloc

open Yoshino.Library

inductive Gralloc1Error where
  | none | badDescriptor | notShared | noResources
deriving DecidableEq

/-- What is asked of ion. -/
structure AllocData where
  size : UInt32
  align : UInt32
  heapId : UInt32
  allocType : UInt32
  flags : UInt32
  uncached : Bool

/-- An error number of a failed system call. -/
abbrev Errno := { n : Nat // 0 < n }

/-- The answer to the two calls of an allocation: the memory, then a descriptor for it. -/
inductive IonOutcome where
  | success (ionHandle fd : Int32)
  | allocFails (errno : Errno)
  | mapFails (errno : Errno)

def IonOutcome.isSuccess : IonOutcome → Bool
  | .success _ _ => true
  | _ => false

/-- The kernel, asked for the allocations one after the other. -/
structure Kernel where
  ionAlloc : Nat → AllocData → IonOutcome
  dup : Int32 → Int32

/-- A registered handle with its two ion handles. -/
structure Buffer where
  handle : PrivateHandle
  refCount : Nat := 1
  ionHandleMain : Int32
  ionHandleMeta : Int32

/-- The manager, with the addresses and allocations given out so far. -/
structure BufferManager where
  descriptors : UInt64 → Option BufferDescriptor
  handles : Nat → Option Buffer
  nextId : UInt64
  nextAddress : Nat
  /-- The allocations of ion that are not freed, by the number of the call that made them. -/
  live : Finset Nat
  ionCalls : Nat
  handles_fresh : ∀ address, nextAddress ≤ address → handles address = none
  live_lt : ∀ n ∈ live, n < ionCalls

/-- The manager of a process that has done nothing yet. -/
def BufferManager.initial (descriptors : UInt64 → Option BufferDescriptor) : BufferManager where
  descriptors := descriptors
  handles := fun _ => none
  nextId := 0
  nextAddress := 0
  live := ∅
  ionCalls := 0
  handles_fresh _ _ := rfl
  live_lt n hn := absurd hn (Finset.notMem_empty n)

/-- A manager whose descriptors all ask for a small RGBA buffer. -/
def BufferManager.small : BufferManager :=
  .initial fun _ => some { width := 64, height := 64, format := .rgba8888 }

/-- A kernel that has memory for so many allocations. -/
def Kernel.limited (allocations : Nat) : Kernel where
  ionAlloc n _ := if n < allocations then .success 7 8 else .allocFails ⟨12, by decide⟩
  dup fd := fd + 1

namespace BufferManager

/-- The memory of the next allocation is there. -/
def ionIocAlloc (s : BufferManager) : BufferManager :=
  { s with
    live := insert s.ionCalls s.live
    ionCalls := s.ionCalls + 1
    live_lt := fun n hn => by
      obtain rfl | hn := Finset.mem_insert.mp hn
      · exact Nat.lt_succ_self _
      · exact (s.live_lt n hn).trans (Nat.lt_succ_self _) }

/-- The next allocation was refused. -/
def ionIocRefused (s : BufferManager) : BufferManager :=
  { s with
    ionCalls := s.ionCalls + 1
    live_lt := fun n hn => (s.live_lt n hn).trans (Nat.lt_succ_self _) }

def ionIocFree (s : BufferManager) (allocation : Nat) : BufferManager :=
  { s with
    live := s.live.erase allocation
    live_lt := fun n hn => s.live_lt n (Finset.mem_of_mem_erase hn) }

/-- Memory that cannot be mapped is given back. -/
def allocBuffer (kernel : Kernel) (data : AllocData) (s : BufferManager) :
    BufferManager × Except Errno (Int32 × Int32) :=
  match kernel.ionAlloc s.ionCalls data with
  | .success ionHandle fd => (s.ionIocAlloc, .ok (ionHandle, fd))
  | .allocFails errno => (s.ionIocRefused, .error errno)
  | .mapFails errno => (s.ionIocAlloc.ionIocFree s.ionCalls, .error errno)

/-- A new handle takes the next id and is entered under an address of its own. -/
def registerHandleLocked (s : BufferManager) (hnd : PrivateHandle) (ionHandle ionHandleMeta : Int32) :
    BufferManager :=
  { s with
    handles := Function.update s.handles s.nextAddress
      (some { handle := hnd, ionHandleMain := ionHandle, ionHandleMeta := ionHandleMeta })
    nextId := s.nextId + 1
    nextAddress := s.nextAddress + 1
    handles_fresh := fun address h => by
      rw [Function.update_of_ne (by omega)]
      exact s.handles_fresh address (by omega) }

end BufferManager

namespace Platform

variable (p : Platform) (kernel : Kernel)

def isSecureContextSupportedByGpu : Bool :=
  p.adreno.isSecureContextSupportedByGpu.getD true

def isGPUSupportedHwBuffer (prodUsage : UInt64) : Bool :=
  if has prodUsage p.producer.protectedContent &&
      (has prodUsage p.producer.gpuRenderTarget || has prodUsage gpuSampledImage ||
        has prodUsage gpuDataBuffer || has prodUsage gpuCubeMap || has prodUsage gpuMipmapComplete) then
    p.isSecureContextSupportedByGpu
  else true

/-- The request for memory under given usage bits. -/
def allocData (size align : UInt32) (prodUsage consUsage : UInt64) : AllocData :=
  let heap := p.getIonHeapInfo prodUsage consUsage
  { size := size, align := align, heapId := heap.heapId, allocType := heap.allocType
    flags := heap.flags, uncached := p.useUncached prodUsage consUsage }

/-- The request for the main memory of a buffer. -/
def mainAllocData (d : BufferDescriptor) (bufferSize : UInt32) : AllocData :=
  let size := (p.getBufferSizeAndDimensions (allocationInfo d)).1.value
  p.allocData (if size ≤ bufferSize then bufferSize else size)
    (p.getDataAlignment d.format d.producerUsage d.consumerUsage) d.producerUsage d.consumerUsage

/-- The request for the metadata memory of a buffer, which has no usage of its own. -/
def metaAllocData : AllocData :=
  p.allocData ((Tracked.of p.metaDataSize).align (.of p.pageSize)).value p.pageSize 0 0

inductive AllocationError where
  | unsupported
  | ion (errno : Errno)

/-- A new buffer, with the address of its handle and the handle. -/
def allocateBuffer (d : BufferDescriptor) (bufferSize : UInt32) (s : BufferManager) :
    BufferManager × Except AllocationError (Nat × PrivateHandle) :=
  if !has d.producerUsage privateSecureDisplay && !p.isGPUSupportedHwBuffer d.producerUsage then
    (s, .error .unsupported)
  else match s.allocBuffer kernel (p.mainAllocData d bufferSize) with
    | (s, .error errno) => (s, .error (.ion errno))
    | (s, .ok (ionHandle, fd)) =>
      match s.allocBuffer kernel p.metaAllocData with
      | (s, .error errno) => (s, .error (.ion errno))
      | (s, .ok (ionHandleMeta, fdMetadata)) =>
        let hnd := p.allocatedHandle d fd fdMetadata bufferSize (s.nextId + 1)
        (s.registerHandleLocked hnd ionHandle ionHandleMeta, .ok (s.nextAddress, hnd))

/-- A further handle for the memory of another one. -/
def createSharedHandle (input : PrivateHandle) (d : BufferDescriptor) (s : BufferManager) :
    BufferManager × Nat :=
  let aligned := p.getAlignedWidthAndHeight (getBufferInfo d)
  let hnd : PrivateHandle :=
    { fd := kernel.dup input.fd
      fdMetadata := kernel.dup input.fdMetadata
      flags := p.getHandleFlags d.format d.producerUsage d.consumerUsage
      width := aligned.1.value.toInt32
      height := aligned.2.value.toInt32
      unalignedWidth := d.width
      unalignedHeight := d.height
      format := d.format
      bufferType := getBufferType d.format
      size := input.size
      id := s.nextId + 1
      producerUsage := d.producerUsage
      consumerUsage := d.consumerUsage }
  (s.registerHandleLocked hnd (-1) (-1), s.nextAddress)

/-- The scan of `CheckForBufferSharing`: can one buffer back all descriptors, and which is the largest?
Whether a buffer is cached is computed there, but not compared. -/
def sharingScan : List BufferDescriptor → Nat → Option IonHeapInfo → UInt32 → Int → Bool × Int
  | [], _, _, _, maxIndex => (true, maxIndex)
  | d :: rest, i, previous, maxSize, maxIndex =>
    let current := p.getIonHeapInfo d.producerUsage d.consumerUsage
    if previous.any (· != current) then (false, maxIndex)
    else
      let aligned := p.getAlignedWidthAndHeight (getBufferInfo d)
      let size := (p.getSize (getBufferInfo d) aligned.1 aligned.2).value
      if maxSize < size then
        sharingScan rest (i + 1) (some current) size (UInt32.ofNat i).toInt32.toInt
      else sharingScan rest (i + 1) (some current) maxSize maxIndex

def checkForBufferSharing (descriptors : List BufferDescriptor) : Bool × Int :=
  p.sharingScan descriptors 0 none 0 (-1)

/-- The descriptor with the format the allocator resolves it to. -/
def resolveFormat (d : BufferDescriptor) : BufferDescriptor :=
  { d with format := p.getImplDefinedFormat d.producerUsage d.consumerUsage d.format }

/-- The descriptors of a call are resolved in place. -/
def resolveFormats (ids : List UInt64) (s : BufferManager) : BufferManager :=
  ids.foldl (fun s id =>
    { s with descriptors := Function.update s.descriptors id ((s.descriptors id).map p.resolveFormat) })
    s

/-- What a call returns: its status, the manager and the entries of the output array. -/
structure AllocationResult where
  status : Gralloc1Error
  manager : BufferManager
  outBuffers : Nat → Option Nat

/-- A separate buffer for each descriptor, up to the first that fails. -/
def allocateEach : List BufferDescriptor → Nat → BufferManager → (Nat → Option Nat) →
    Bool × BufferManager × (Nat → Option Nat)
  | [], _, s, out => (true, s, out)
  | d :: rest, i, s, out =>
    match p.allocateBuffer kernel d 0 s with
    | (s, .error _) => (false, s, out)
    | (s, .ok (address, _)) => allocateEach rest (i + 1) s (Function.update out i (some address))

/-- Handles for all descriptors but the one that was allocated. -/
def shareEach (input : PrivateHandle) (allocated : Nat) : List BufferDescriptor → Nat →
    BufferManager → (Nat → Option Nat) → BufferManager × (Nat → Option Nat)
  | [], _, s, out => (s, out)
  | d :: rest, i, s, out =>
    if i ≠ allocated then
      let shared := p.createSharedHandle kernel input d s
      shareEach input allocated rest (i + 1) shared.1 (Function.update out i (some shared.2))
    else shareEach input allocated rest (i + 1) s out

/-- The status of a test allocation, or buffers for all descriptors of a call. -/
def allocateResolved (descriptors : List BufferDescriptor) (testAllocate : Bool) (s : BufferManager)
    (out : Nat → Option Nat) : AllocationResult :=
  let sharing := p.checkForBufferSharing descriptors
  if testAllocate then ⟨if sharing.1 then .notShared else .none, s, out⟩
  else if sharing.1 && decide (0 ≤ sharing.2) then
    -- One buffer, and handles for the other descriptors.
    match p.allocateBuffer kernel (descriptors.getD sharing.2.toNat {}) 0 s with
    | (s, .error _) => ⟨.noResources, s, out⟩
    | (s, .ok (address, hnd)) =>
      let shared := p.shareEach kernel hnd sharing.2.toNat descriptors 0 s
        (Function.update out sharing.2.toNat (some address))
      ⟨.none, shared.1, shared.2⟩
  else
    match p.allocateEach kernel descriptors 0 s out with
    | (false, s, out) => ⟨.noResources, s, out⟩
    | (true, s, out) => ⟨if sharing.1 then .none else .notShared, s, out⟩

def allocateBuffers (ids : List UInt64) (testAllocate : Bool) (s : BufferManager)
    (out : Nat → Option Nat) : AllocationResult :=
  if ids.any fun id => (s.descriptors id).isNone then ⟨.badDescriptor, s, out⟩
  else
    let s := p.resolveFormats ids s
    p.allocateResolved kernel (ids.filterMap s.descriptors) testAllocate s out

end Platform

end Yoshino.Gralloc
