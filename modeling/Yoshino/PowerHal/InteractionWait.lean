import Yoshino.PowerHal.InteractionBoost

/-!
# Extending the interaction boost

An `Acquire` during the wait aborts it, and the worker then starts another wait with the new
duration before it releases the boost. The abort is a counter that outlives the wait it aborts; it
is cleared before the worker waits again. So at every release the last wait began after the last
`Acquire` and was given its duration.
-/

namespace Yoshino.PowerHal

open Yoshino.Library

/-- The timeout of a call of `WaitForIdle`. -/
def HandlerCall.waited : HandlerCall → Option Int32
  | .waitForIdle timeout => some timeout
  | _ => none

/-- The duration an `Acquire` has stored. -/
def HandlerCall.acquired : HandlerCall → Option Int32
  | .acquire mDurationMs => some mDurationMs
  | _ => none

/-- The counter of the event descriptor. -/
def Handler.eventCounter (s : Handler) : Nat :=
  s.eventFd.getD 0

/-- The last wait was given the duration of the last `Acquire`, and every `Acquire` is followed by
the start of a wait; the calls are newest first. -/
structure Waited (history : List HandlerCall) : Prop where
  duration : ∃ timeout, history.findSome? HandlerCall.waited = some timeout ∧
    history.findSome? HandlerCall.acquired = some timeout
  started : ∀ later mDurationMs earlier, history = later ++ .acquire mDurationMs :: earlier →
    ∃ timeout, .waitForIdle timeout ∈ later

/-- The history before every release was waited for. -/
def ReleasesWaited (history : List HandlerCall) : Prop :=
  ∀ later earlier, history = later ++ .perfRel :: earlier → Waited earlier

/-- A call other than a release adds no obligation; a release needs the wait before it. -/
theorem ReleasesWaited.cons {history : List HandlerCall} (h : ReleasesWaited history)
    (call : HandlerCall) (hcall : call = .perfRel → Waited history) :
    ReleasesWaited (call :: history) := by
  intro later earlier heq
  cases later with
  | nil =>
    obtain ⟨rfl, rfl⟩ := List.cons.inj heq
    exact hcall rfl
  | cons first later =>
    obtain ⟨rfl, hrest⟩ := List.cons.inj heq
    exact h later earlier hrest

/-- Starting a wait with the duration of the last `Acquire` waits for the history. -/
theorem Waited.of_start {history : List HandlerCall} {timeout : Int32}
    (hacquired : history.findSome? HandlerCall.acquired = some timeout) :
    Waited (.waitForIdle timeout :: history) where
  duration := ⟨timeout, rfl, hacquired⟩
  started later mDurationMs earlier heq := by
    cases later with
    | nil => exact absurd (List.cons.inj heq).1 nofun
    | cons first later =>
      obtain ⟨rfl, -⟩ := List.cons.inj heq
      exact ⟨timeout, List.mem_cons_self⟩

/-- What the states say about the history and the event descriptor. -/
structure Handler.Waiting (s : Handler) : Prop where
  acquired : s.boosting = true → s.history.findSome? HandlerCall.acquired = some s.mDurationMs
  unlocked : s.mState = .waiting → s.worker ≠ .locking
  waited : s.mState = .waiting → s.worker ≠ .calling → Waited s.history
  counter : s.mState = .waiting ∨ s.mState ≠ .uninitialized ∧ s.worker = .locking →
    s.eventCounter = 0
  released : ReleasesWaited s.history

/-- A step of the threads that touches neither the state nor the history. -/
theorem Handler.Waiting.congr {s s' : Handler} (h : s.Waiting) (hstate : s'.mState = s.mState)
    (hduration : s'.mDurationMs = s.mDurationMs) (hhistory : s'.history = s.history)
    (hcalling : s.worker = .calling → s'.worker = .calling)
    (hlocking : s'.worker = .locking → s.worker = .locking)
    (hcounter : s'.eventCounter = s.eventCounter ∨ s'.eventCounter = 0) : s'.Waiting where
  acquired hboosting := by
    rw [hhistory, hduration]
    exact h.acquired (s.boosting_iff.mpr (hstate ▸ s'.boosting_iff.mp hboosting))
  unlocked hwaiting hworker := h.unlocked (hstate ▸ hwaiting) (hlocking hworker)
  waited hwaiting hworker := by
    rw [hhistory]
    exact h.waited (hstate ▸ hwaiting) fun hcall => hworker (hcalling hcall)
  counter hcondition := by
    rcases hcounter with hsame | hzero
    · rw [hsame]
      rw [hstate] at hcondition
      exact h.counter (hcondition.imp_right fun ⟨hinit, hworker⟩ => ⟨hinit, hlocking hworker⟩)
    · exact hzero
  released := hhistory ▸ h.released

/-- `Init` opens a descriptor whose counter is zero. -/
theorem Handler.Waiting.init {s : Handler} (h : s.Waiting) (idleOpens eventOpens : Bool) :
    (s.init idleOpens eventOpens).Waiting := by
  unfold Handler.init
  split
  · exact h
  · split
    · exact h
    · split
      · exact h.congr rfl rfl rfl id id (.inr rfl)
      · exact ⟨nofun, nofun, nofun, fun _ => rfl, h.released⟩

/-- An `Acquire` that is not covered raises the counter only when it ends a wait, and then the
worker is not about to take the lock. -/
theorem Handler.Waiting.acquire {s : Handler} (h : s.Waiting) (duration : Int32) (now : Timespec) :
    (s.acquire duration now).Waiting := by
  rcases s.acquire_cases duration now with hsame | ⟨hinit, hnew⟩
  · rw [hsame]
    exact h
  · rw [hnew]
    have hreleased : ReleasesWaited (.acquire (finalDuration duration) :: s.history) :=
      h.released.cons _ (by simp)
    refine ⟨fun _ => ?_, by simp, by simp, fun hcondition => ?_, ?_⟩
    · dsimp only
      split <;> rfl
    · have hlocking : s.worker = .locking := (hcondition.resolve_left (by simp)).2
      have hwaiting : s.mState ≠ .waiting := fun hwaiting => h.unlocked hwaiting hlocking
      rw [eventCounter, if_neg hwaiting]
      exact h.counter (.inr ⟨hinit, hlocking⟩)
    · by_cases hidle : s.mState = .idle
      · rw [if_pos hidle]
        exact hreleased.cons _ (by simp)
      · rw [if_neg hidle]
        exact hreleased

/-- The section of `Exit` under the lock ends every wait. -/
theorem Handler.Waiting.exit {s : Handler} (h : s.Waiting) : s.exit.Waiting := by
  unfold Handler.exit
  split
  · exact h
  · refine ⟨nofun, nofun, nofun, fun hcondition => ?_, h.released⟩
    exact absurd rfl (hcondition.resolve_left nofun).1

/-- The worker begins to wait with a counter of zero. -/
theorem Handler.Waiting.lock {s : Handler} (h : s.Waiting) (hworker : s.worker = .locking) :
    s.lock.Waiting := by
  unfold Handler.lock
  split
  · exact h
  next hstate =>
    refine ⟨fun hboosting => ?_, fun hwaiting => ?_, fun hwaiting => ?_, fun hcondition => ?_,
      h.released⟩
    · exact h.acquired hboosting
    · exact absurd (hstate.symm.trans hwaiting) nofun
    · exact absurd (hstate.symm.trans hwaiting) nofun
    · rcases hcondition with hwaiting | ⟨hinit, -⟩
      · exact absurd (hstate.symm.trans hwaiting) nofun
      · exact absurd hstate hinit
  next hidle hinit =>
    have hboosting : s.boosting = true := s.boosting_iff.mpr ⟨hidle, hinit⟩
    refine ⟨fun _ => h.acquired hboosting, nofun, fun _ hcalling => absurd rfl hcalling,
      fun _ => h.counter (.inr ⟨hinit, hworker⟩), h.released⟩

/-- The worker waits for the duration of the last `Acquire`, also when that came after the worker
gave up the lock. -/
theorem Handler.Waiting.waitForIdle {s : Handler} (h : s.Waiting) :
    ({ s.record (.waitForIdle s.mDurationMs) with
      worker := .polling s.mDurationMs } : Handler).Waiting where
  acquired hboosting := h.acquired hboosting
  unlocked _ := nofun
  waited hwaiting _ := by
    have hstate : s.mState = .waiting := hwaiting
    exact .of_start (h.acquired (s.boosting_iff.mpr (by simp [hstate])))
  counter hcondition := by
    have hwaiting : s.mState = .waiting := hcondition.resolve_right fun ⟨_, hlocking⟩ =>
      absurd hlocking nofun
    exact h.counter (.inl hwaiting)
  released := h.released.cons _ nofun

/-- `Release` ends a boost that was waited for, and clears the counter after an abort. -/
theorem Handler.Waiting.release {s : Handler} (h : s.Waiting) (hworker : s.worker = .releasing) :
    s.release.Waiting := by
  unfold Handler.release
  split
  next hstate =>
    have hcalling : s.worker ≠ .calling := by simp [hworker]
    refine ⟨nofun, nofun, nofun, fun _ => h.counter (.inl hstate), ?_⟩
    exact h.released.cons _ fun _ => h.waited hstate hcalling
  next hstate =>
    refine ⟨h.acquired, fun hwaiting => absurd hwaiting hstate,
      fun hwaiting => absurd hwaiting hstate, fun _ => ?_, h.released⟩
    cases s.eventFd <;> rfl

/-- No result of `poll` takes the worker into or out of its other sections. -/
theorem WorkerThread.poll_sections (worker : WorkerThread) (result : PollResult) :
    (worker = .calling → worker.poll result = .calling) ∧
      (worker.poll result = .locking → worker = .locking) := by
  cases worker <;> cases result <;> simp [WorkerThread.poll]

/-- No idle state takes the worker into or out of its other sections. -/
theorem WorkerThread.pread_sections (worker : WorkerThread) (state : IdleState) :
    (worker = .calling → worker.pread state = .calling) ∧
      (worker.pread state = .locking → worker = .locking) := by
  cases worker <;> cases state <;> simp [WorkerThread.pread]

/-- Every step keeps the waits. -/
theorem Handler.Waiting.step {s : Handler} (h : s.Waiting) (e : HandlerEvent) :
    (s.step e).Waiting := by
  refine Handler.step_rule Handler.Waiting e h h.init (fun duration now _ => h.acquire duration now)
    (fun _ _ => h.exit) ?_ (h.congr rfl rfl rfl id id (.inr rfl)) h.lock h.waitForIdle ?_ ?_ h.release
  · intro hworker
    exact h.congr rfl rfl rfl (fun hcalling => absurd (hworker.symm.trans hcalling) nofun) nofun
      (.inl rfl)
  · intro result
    obtain ⟨hcalling, hlocking⟩ := s.worker.poll_sections result
    exact h.congr rfl rfl rfl hcalling hlocking (.inl rfl)
  · intro state
    obtain ⟨hcalling, hlocking⟩ := s.worker.pread_sections state
    exact h.congr rfl rfl rfl hcalling hlocking (.inl rfl)

/-- The constructed handler has no history. -/
theorem Handler.constructed_waiting : Handler.constructed.Waiting where
  acquired := nofun
  unlocked := nofun
  waited := nofun
  counter _ := rfl
  released later _ heq := by cases later <;> cases heq

/-- In every interleaving the counter is zero while the handler is `WAITING`, and before every
release each `Acquire` is followed by the start of a wait, the last one with the duration of the
last `Acquire`. -/
theorem Handler.extension_not_lost (events : List HandlerEvent) :
    let s := run Handler.step .constructed events
    (s.mState = .waiting → s.eventCounter = 0) ∧
      ∀ later earlier, s.history = later ++ .perfRel :: earlier →
        (∃ timeout, earlier.findSome? HandlerCall.waited = some timeout ∧
          earlier.findSome? HandlerCall.acquired = some timeout) ∧
        ∀ newer mDurationMs older, earlier = newer ++ .acquire mDurationMs :: older →
          ∃ timeout, .waitForIdle timeout ∈ newer := by
  have h : (run Handler.step .constructed events).Waiting :=
    run_invariant_of_step Handler.Waiting (fun _ e h => h.step e) _ events
      Handler.constructed_waiting
  refine ⟨fun hwaiting => h.counter (.inl hwaiting), fun later earlier hhistory => ?_⟩
  obtain ⟨hduration, hstarted⟩ := h.released later earlier hhistory
  exact ⟨hduration, hstarted⟩

end Yoshino.PowerHal
