import Yoshino.Gralloc.FailedAllocation

/-!
# What a test allocation says

A client may ask whether an allocation would succeed by passing no output array. The test returns
`NOT_SHARED` where one buffer can back all descriptors and `NONE` where it cannot, while the
allocation itself returns these two the other way round.
-/

namespace Yoshino.Gralloc

namespace Platform

variable (p : Platform) (kernel : Kernel)

/-- The status of an allocation that does not run out of resources. -/
def sharedStatus (descriptors : List BufferDescriptor) : Gralloc1Error :=
  if (p.checkForBufferSharing descriptors).1 then .none else .notShared

/-- A test says the opposite of what an allocation with enough resources says, and never that there
are none. -/
theorem testStatus_ne (descriptors : List BufferDescriptor) (s : BufferManager)
    (out : Nat → Option Nat) :
    (p.allocateResolved kernel descriptors true s out).status ≠ p.sharedStatus descriptors ∧
      (p.allocateResolved kernel descriptors true s out).status ≠ .noResources := by
  have htest : (p.allocateResolved kernel descriptors true s out).status =
      if (p.checkForBufferSharing descriptors).1 then .notShared else .none := rfl
  rw [htest, sharedStatus]
  cases (p.checkForBufferSharing descriptors).1 <;> decide

/-- An allocation runs out of resources or tells whether its buffer is shared. -/
theorem allocateResolved_status (descriptors : List BufferDescriptor) (s : BufferManager)
    (out : Nat → Option Nat) :
    (p.allocateResolved kernel descriptors false s out).status = .noResources ∨
      (p.allocateResolved kernel descriptors false s out).status = p.sharedStatus descriptors := by
  dsimp only [allocateResolved, sharedStatus]
  rw [if_neg Bool.false_ne_true]
  split
  · rename_i hshared
    rw [if_pos (Bool.and_eq_true_iff.mp hshared).1]
    split
    · exact .inl rfl
    · exact .inr rfl
  · split
    · exact .inl rfl
    · exact .inr rfl

/-- The test and the allocation agree only on invalid descriptors. -/
theorem allocateBuffers_test_iff (ids : List UInt64) (s : BufferManager) (out : Nat → Option Nat) :
    (p.allocateBuffers kernel ids true s out).status =
        (p.allocateBuffers kernel ids false s out).status ↔
      ∃ id ∈ ids, s.descriptors id = none := by
  have hinvalid : (ids.any fun id => (s.descriptors id).isNone) = true ↔
      ∃ id ∈ ids, s.descriptors id = none := by
    simp only [List.any_eq_true, Option.isNone_iff_eq_none]
  rw [← hinvalid]
  unfold allocateBuffers
  by_cases h : (ids.any fun id => (s.descriptors id).isNone) = true
  · rw [if_pos h, if_pos h]
    exact iff_of_true rfl h
  · rw [if_neg h, if_neg h]
    refine iff_of_false (fun heq => ?_) h
    obtain ⟨hshared, hresources⟩ := p.testStatus_ne kernel
      (ids.filterMap (p.resolveFormats ids s).descriptors) (p.resolveFormats ids s) out
    obtain hstatus | hstatus := p.allocateResolved_status kernel
      (ids.filterMap (p.resolveFormats ids s).descriptors) (p.resolveFormats ids s) out
    · exact hresources (heq.trans hstatus)
    · exact hshared (heq.trans hstatus)

/-- One descriptor and memory for its buffer: the test says that nothing is shared. -/
theorem allocateBuffers_test_single :
    (plain.allocateBuffers (.limited 2) [1] true .small fun _ => none).status = .notShared ∧
      (plain.allocateBuffers (.limited 2) [1] false .small fun _ => none).status = .none :=
  ⟨by decide, by decide⟩

section AllMemory

variable (hkernel : ∀ n data, (kernel.ionAlloc n data).isSuccess = true)

include hkernel in
/-- With memory for everything a supported buffer is allocated. -/
theorem allocateBuffer_of_all_memory {d : BufferDescriptor} (hsupported : p.supportsUsage d = true)
    (s : BufferManager) : ∃ next buffer, p.allocateBuffer kernel d 0 s = (next, .ok buffer) := by
  unfold allocateBuffer
  rw [if_neg (p.not_unsupported hsupported)]
  obtain ⟨ionHandle, fd, hmain⟩ := s.allocBuffer_of_success kernel _ (hkernel _ _)
  rw [hmain]
  obtain ⟨ionHandleMeta, fdMetadata, hmeta⟩ :=
    s.ionIocAlloc.allocBuffer_of_success kernel p.metaAllocData (hkernel _ _)
  dsimp only
  rw [hmeta]
  exact ⟨_, _, rfl⟩

include hkernel in
/-- With memory for everything all supported buffers are allocated. -/
theorem allocateEach_of_all_memory {descriptors : List BufferDescriptor}
    (hsupported : ∀ d ∈ descriptors, p.supportsUsage d = true) (i : Nat) (s : BufferManager)
    (out : Nat → Option Nat) : (p.allocateEach kernel descriptors i s out).1 = true := by
  induction descriptors generalizing i s out with
  | nil => rfl
  | cons d rest ih =>
    obtain ⟨next, buffer, hok⟩ := p.allocateBuffer_of_all_memory kernel hkernel
      (hsupported d List.mem_cons_self) s
    rw [allocateEach, hok]
    exact ih (fun d hd => hsupported d (List.mem_cons_of_mem _ hd)) _ _ _

/-- A descriptor that was never set up uses nothing. -/
theorem supportsUsage_default : p.supportsUsage {} = true := by
  have hnone (mask : UInt64) : has 0 mask = false := by simp [has]
  simp [supportsUsage, isGPUSupportedHwBuffer, hnone]

include hkernel in
/-- With memory for everything and usages the GPU supports, an allocation only tells whether its buffer
is shared. -/
theorem allocateResolved_of_all_memory {descriptors : List BufferDescriptor}
    (hsupported : ∀ d ∈ descriptors, p.supportsUsage d = true) (s : BufferManager)
    (out : Nat → Option Nat) :
    (p.allocateResolved kernel descriptors false s out).status = p.sharedStatus descriptors := by
  refine (p.allocateResolved_status kernel descriptors s out).resolve_left fun hfail => ?_
  dsimp only [allocateResolved] at hfail
  rw [if_neg Bool.false_ne_true] at hfail
  split at hfail
  · have hlargest (i : Nat) : p.supportsUsage (descriptors.getD i {}) = true := by
      rw [List.getD_eq_getElem?_getD]
      cases hd : descriptors[i]? with
      | none => exact p.supportsUsage_default
      | some d => exact hsupported d (List.mem_of_getElem? hd)
    obtain ⟨next, buffer, hok⟩ := p.allocateBuffer_of_all_memory kernel hkernel (hlargest _) s
    rw [hok] at hfail
    cases hfail
  · have hloop := p.allocateEach_of_all_memory kernel hkernel hsupported 0 s out
    split at hfail
    · rename_i next entries heq
      rw [heq] at hloop
      cases hloop
    · dsimp only at hfail
      split at hfail <;> cases hfail

end AllMemory

end Platform

end Yoshino.Gralloc
