import Yoshino.Gralloc.BufferManager

/-!
# What a failed allocation leaves behind

`AllocateBuffer` takes a main and a metadata allocation and registers a handle; neither it nor
`AllocateBuffers` undoes anything when a later step fails. A failed call is without a trace exactly
when its first buffer never got its main memory.
-/

namespace Yoshino.Gralloc

namespace BufferManager

variable (kernel : Kernel) (data : AllocData) (s : BufferManager)

/-- The number of the next allocation is not in use. -/
theorem ionCalls_notMem_live : s.ionCalls ∉ s.live :=
  fun h => lt_irrefl _ (s.live_lt _ h)

/-- A manager in which the next allocation is live differs from this one. -/
theorem not_traceless_of_live {next : BufferManager} (h : s.ionCalls ∈ next.live) :
    ¬ (next.handles = s.handles ∧ next.live = s.live) := by
  rintro ⟨-, hlive⟩
  rw [hlive] at h
  exact s.ionCalls_notMem_live h

/-- An allocation that succeeds is live. -/
theorem allocBuffer_of_success (h : (kernel.ionAlloc s.ionCalls data).isSuccess = true) :
    ∃ ionHandle fd, s.allocBuffer kernel data = (s.ionIocAlloc, .ok (ionHandle, fd)) := by
  unfold allocBuffer
  cases hout : kernel.ionAlloc s.ionCalls data with
  | success ionHandle fd => exact ⟨ionHandle, fd, rfl⟩
  | allocFails errno | mapFails errno =>
    rw [hout] at h
    exact absurd h Bool.false_ne_true

/-- An allocation that fails leaves the handles and the live allocations alone. -/
theorem allocBuffer_of_failure (h : (kernel.ionAlloc s.ionCalls data).isSuccess = false) :
    ∃ next errno, s.allocBuffer kernel data = (next, .error errno) ∧
      next.handles = s.handles ∧ next.live = s.live := by
  unfold allocBuffer
  cases hout : kernel.ionAlloc s.ionCalls data with
  | success ionHandle fd =>
    rw [hout] at h
    exact absurd h.symm Bool.false_ne_true
  | allocFails errno => exact ⟨_, errno, rfl, rfl, rfl⟩
  | mapFails errno =>
    exact ⟨_, errno, rfl, rfl, Finset.erase_insert s.ionCalls_notMem_live⟩

end BufferManager

namespace Platform

variable (p : Platform) (kernel : Kernel)

/-- The usage of a request is within what the GPU supports. -/
def supportsUsage (d : BufferDescriptor) : Bool :=
  has d.producerUsage privateSecureDisplay || p.isGPUSupportedHwBuffer d.producerUsage

/-- A buffer would get its main memory. -/
def getsMainMemory (d : BufferDescriptor) (s : BufferManager) : Bool :=
  p.supportsUsage d && (kernel.ionAlloc s.ionCalls (p.mainAllocData d 0)).isSuccess

/-- The test by which `AllocateBuffer` refuses a descriptor. -/
theorem unsupported_iff (d : BufferDescriptor) :
    (!has d.producerUsage privateSecureDisplay && !p.isGPUSupportedHwBuffer d.producerUsage) = true ↔
      p.supportsUsage d = false := by
  rw [supportsUsage, ← Bool.not_or, Bool.not_eq_true']

/-- A descriptor whose usage is supported is not refused. -/
theorem not_unsupported {d : BufferDescriptor} (h : p.supportsUsage d = true) :
    ¬ (!has d.producerUsage privateSecureDisplay && !p.isGPUSupportedHwBuffer d.producerUsage) =
      true := by
  rw [unsupported_iff, h]
  decide

/-- A buffer that does not get its main memory fails without a trace. -/
theorem allocateBuffer_of_refused {d : BufferDescriptor} {s : BufferManager}
    (h : p.getsMainMemory kernel d s = false) :
    ∃ next error, p.allocateBuffer kernel d 0 s = (next, .error error) ∧
      next.handles = s.handles ∧ next.live = s.live := by
  unfold allocateBuffer
  cases hsupported : p.supportsUsage d with
  | false =>
    rw [if_pos ((p.unsupported_iff d).mpr hsupported)]
    exact ⟨s, .unsupported, rfl, rfl, rfl⟩
  | true =>
    rw [if_neg (p.not_unsupported hsupported)]
    rw [getsMainMemory, hsupported, Bool.true_and] at h
    obtain ⟨next, errno, halloc, hhandles, hlive⟩ := s.allocBuffer_of_failure kernel _ h
    rw [halloc]
    exact ⟨next, .ion errno, rfl, hhandles, hlive⟩

/-- A buffer that gets its main memory keeps it, also where its metadata fails. -/
theorem allocateBuffer_of_memory {d : BufferDescriptor} {s : BufferManager}
    (h : p.getsMainMemory kernel d s = true) :
    s.ionIocAlloc.live ⊆ (p.allocateBuffer kernel d 0 s).1.live := by
  rw [getsMainMemory, Bool.and_eq_true] at h
  obtain ⟨hsupported, hmain⟩ := h
  unfold allocateBuffer
  rw [if_neg (p.not_unsupported hsupported)]
  obtain ⟨ionHandle, fd, halloc⟩ := s.allocBuffer_of_success kernel _ hmain
  rw [halloc]
  dsimp only
  cases hmeta : (kernel.ionAlloc s.ionIocAlloc.ionCalls p.metaAllocData).isSuccess with
  | false =>
    obtain ⟨next, errno, hfail, -, hlive⟩ := s.ionIocAlloc.allocBuffer_of_failure kernel _ hmeta
    rw [hfail]
    exact hlive.ge
  | true =>
    obtain ⟨ionHandleMeta, fdMetadata, hok⟩ := s.ionIocAlloc.allocBuffer_of_success kernel _ hmeta
    rw [hok]
    exact Finset.subset_insert _ _

/-- One buffer is without a trace exactly when it got no memory. -/
theorem allocateBuffer_traceless_iff (d : BufferDescriptor) (s : BufferManager) :
    ((p.allocateBuffer kernel d 0 s).1.handles = s.handles ∧
      (p.allocateBuffer kernel d 0 s).1.live = s.live) ↔ p.getsMainMemory kernel d s = false := by
  cases h : p.getsMainMemory kernel d s with
  | false =>
    obtain ⟨next, error, hrefused, hhandles, hlive⟩ := p.allocateBuffer_of_refused kernel h
    simp only [hrefused, hhandles, hlive, and_self]
  | true =>
    refine iff_of_false (s.not_traceless_of_live ?_) (by simp)
    exact p.allocateBuffer_of_memory kernel h (Finset.mem_insert_self _ _)

/-- No allocation of a buffer frees another one. -/
theorem live_subset_allocateBuffer (d : BufferDescriptor) (s : BufferManager) :
    s.live ⊆ (p.allocateBuffer kernel d 0 s).1.live := by
  cases h : p.getsMainMemory kernel d s with
  | false =>
    obtain ⟨next, error, hfail, -, hlive⟩ := p.allocateBuffer_of_refused kernel h
    rw [hfail]
    exact hlive.ge
  | true =>
    exact (Finset.subset_insert _ _).trans (p.allocateBuffer_of_memory kernel h)

/-- Nor does a whole loop of them, however it ends. -/
theorem live_subset_allocateEach (descriptors : List BufferDescriptor) (i : Nat) (s : BufferManager)
    (out : Nat → Option Nat) :
    s.live ⊆ (p.allocateEach kernel descriptors i s out).2.1.live := by
  induction descriptors generalizing i s out with
  | nil => exact Finset.Subset.refl _
  | cons d rest ih =>
    have hstep := p.live_subset_allocateBuffer kernel d s
    unfold allocateEach
    split
    · rename_i next error hfail
      rw [hfail] at hstep
      exact hstep
    · rename_i next address hnd hok
      rw [hok] at hstep
      exact hstep.trans (ih _ _ _)

/-- A loop is without a trace exactly when its first buffer got no memory. -/
theorem allocateEach_traceless_iff (d : BufferDescriptor) (rest : List BufferDescriptor) (i : Nat)
    (s : BufferManager) (out : Nat → Option Nat) :
    ((p.allocateEach kernel (d :: rest) i s out).2.1.handles = s.handles ∧
      (p.allocateEach kernel (d :: rest) i s out).2.1.live = s.live) ↔
      p.getsMainMemory kernel d s = false := by
  cases h : p.getsMainMemory kernel d s with
  | false =>
    obtain ⟨next, error, hrefused, hhandles, hlive⟩ := p.allocateBuffer_of_refused kernel h
    simp only [allocateEach, hrefused, hhandles, hlive, and_self]
  | true =>
    have hfirst : s.ionCalls ∈ (p.allocateBuffer kernel d 0 s).1.live :=
      p.allocateBuffer_of_memory kernel h (Finset.mem_insert_self _ _)
    have hkept : s.ionCalls ∈ (p.allocateEach kernel (d :: rest) i s out).2.1.live := by
      unfold allocateEach
      split
      · rename_i next error heq
        rw [heq] at hfirst
        exact hfirst
      · rename_i next address hnd heq
        rw [heq] at hfirst
        exact p.live_subset_allocateEach kernel rest _ _ _ hfirst
    exact iff_of_false (s.not_traceless_of_live hkept) (by simp)

/-- Resolving formats touches neither handles nor allocations. -/
theorem resolveFormats_frame (ids : List UInt64) (s : BufferManager) :
    (p.resolveFormats ids s).handles = s.handles ∧ (p.resolveFormats ids s).live = s.live ∧
      (p.resolveFormats ids s).ionCalls = s.ionCalls := by
  unfold resolveFormats
  induction ids generalizing s with
  | nil => exact ⟨rfl, rfl, rfl⟩
  | cons id rest ih => exact ih _

/-- The descriptor whose buffer is allocated first: the largest one if one buffer is to back all. -/
def firstDescriptor (descriptors : List BufferDescriptor) : BufferDescriptor :=
  let sharing := p.checkForBufferSharing descriptors
  if sharing.1 && decide (0 ≤ sharing.2) then descriptors.getD sharing.2.toNat {}
  else descriptors.headD {}

/-- The part of a call behind the validation leaves no trace exactly when its first buffer got no
memory. -/
theorem allocateResolved_traceless_iff {descriptors : List BufferDescriptor} {s : BufferManager}
    {out : Nat → Option Nat}
    (hstatus : (p.allocateResolved kernel descriptors false s out).status = .noResources) :
    ((p.allocateResolved kernel descriptors false s out).manager.handles = s.handles ∧
      (p.allocateResolved kernel descriptors false s out).manager.live = s.live) ↔
    p.getsMainMemory kernel (p.firstDescriptor descriptors) s = false := by
  generalize hresult : p.allocateResolved kernel descriptors false s out = result at hstatus ⊢
  dsimp only [allocateResolved] at hresult
  dsimp only [firstDescriptor]
  rw [if_neg Bool.false_ne_true] at hresult
  split at hresult
  · rename_i hshared
    rw [if_pos hshared]
    have hone := p.allocateBuffer_traceless_iff kernel
      (descriptors.getD (p.checkForBufferSharing descriptors).2.toNat {}) s
    split at hresult
    · rename_i next error hfail
      rw [hfail] at hone
      rw [← hresult]
      exact hone
    · rw [← hresult] at hstatus
      cases hstatus
  · rename_i hseparate
    rw [if_neg hseparate]
    cases descriptors with
    | nil =>
      rw [← hresult] at hstatus
      cases hstatus
    | cons d rest =>
      have hloop := p.allocateEach_traceless_iff kernel d rest 0 s out
      split at hresult
      · rename_i next entries hfail
        rw [hfail] at hloop
        rw [← hresult]
        exact hloop
      · rw [← hresult] at hstatus
        dsimp only at hstatus
        split at hstatus <;> cases hstatus

/-- A call that runs out of resources leaves no trace exactly when its first buffer never got its main
memory. -/
theorem allocateBuffers_traceless_iff (ids : List UInt64) (s : BufferManager) (out : Nat → Option Nat)
    (hstatus : (p.allocateBuffers kernel ids false s out).status = .noResources) :
    ((p.allocateBuffers kernel ids false s out).manager.handles = s.handles ∧
      (p.allocateBuffers kernel ids false s out).manager.live = s.live) ↔
    p.getsMainMemory kernel (p.firstDescriptor (ids.filterMap (p.resolveFormats ids s).descriptors)) s =
      false := by
  obtain ⟨hhandles, hlive, hcalls⟩ := p.resolveFormats_frame ids s
  have hmemory (d : BufferDescriptor) :
      p.getsMainMemory kernel d (p.resolveFormats ids s) = p.getsMainMemory kernel d s := by
    rw [getsMainMemory, getsMainMemory, hcalls]
  unfold allocateBuffers at hstatus ⊢
  by_cases hinvalid : (ids.any fun id => (s.descriptors id).isNone) = true
  · rw [if_pos hinvalid] at hstatus
    cases hstatus
  · rw [if_neg hinvalid] at hstatus ⊢
    rw [← hhandles, ← hlive, ← hmemory]
    exact p.allocateResolved_traceless_iff kernel hstatus

/-- Without any memory a call fails and leaves no trace. -/
theorem allocateBuffers_traceless_no_memory :
    (plain.allocateBuffers (.limited 0) [1, 2] false .small fun _ => none).status = .noResources ∧
      (plain.allocateBuffers (.limited 0) [1, 2] false .small fun _ => none).manager.handles =
        BufferManager.small.handles ∧
      (plain.allocateBuffers (.limited 0) [1, 2] false .small fun _ => none).manager.live =
        BufferManager.small.live :=
  ⟨by decide, (plain.allocateBuffers_traceless_iff (.limited 0) [1, 2] .small (fun _ => none)
    (by decide)).mpr (by decide)⟩

/-- Without memory for the metadata the main memory of the buffer stays allocated. -/
theorem allocateBuffers_metadata_fails :
    (plain.allocateBuffers (.limited 1) [1] false .small fun _ => none).status = .noResources ∧
      (plain.allocateBuffers (.limited 1) [1] false .small fun _ => none).manager.live = {0} ∧
      BufferManager.small.live = ∅ :=
  ⟨by decide, by decide, rfl⟩

end Platform

end Yoshino.Gralloc
