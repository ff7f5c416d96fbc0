import Yoshino.Library.Runs
import Yoshino.PowerHal.HintManager

/-!
# The interaction handler

`InteractionHandler` holds the `INTERACTION` hint while the user interacts. Clients call `Init`,
`Acquire` and `Exit`; a worker thread waits until the display is idle and releases the hint. Each
section under `mLock` is one step. Outside the lock the worker reads `mDurationMs` and polls an event
descriptor, by which `Acquire` and `Exit` abort its wait, and `Exit` joins the worker and closes the
descriptors. `poll` may return at any time, but reports an abort only when the descriptor is
readable or closed.
-/

namespace Yoshino.PowerHal

/-- `enum interaction_state`. -/
inductive InteractionState
  | uninitialized
  | idle
  | interaction
  | waiting
  deriving DecidableEq, Repr

/-- `struct timespec`. -/
structure Timespec where
  sec : Int64
  nsec : Int64
  deriving DecidableEq, Repr

/-- Where the worker thread is. -/
inductive WorkerThread
  /-- There is no thread, or it has been joined. -/
  | absent
  /-- At the top of the loop of `Routine`, before the lock or blocked on the condition variable. -/
  | locking
  /-- The lock is released and `WaitForIdle` not yet called. -/
  | calling
  /-- In the first `poll` of `WaitForIdle`. -/
  | polling (timeout : Int32)
  /-- Before the `pread` of the idle state. -/
  | reading (timeout : Int32)
  /-- In the second `poll`. -/
  | pollingIdle (timeout : Int32)
  /-- `WaitForIdle` has returned and `Release` not yet called. -/
  | releasing
  /-- `Routine` has returned and the thread is not joined. -/
  | returned
  deriving DecidableEq, Repr

/-- The calls that matter to the boost; an `Acquire` that is skipped is not recorded. -/
inductive HandlerCall
  | acquire (mDurationMs : Int32)
  | waitForIdle (timeout : Int32)
  | perfLock
  | perfRel
  deriving DecidableEq, Repr

/-- The handler, its descriptors and its threads. -/
structure Handler where
  mState : InteractionState
  mDurationMs : Int32
  mLastTimespec : Timespec
  /-- The counter of the event descriptor, while that is open. -/
  eventFd : Option Nat
  worker : WorkerThread
  /-- An `Exit` has left its section under the lock and waits for the worker. -/
  joining : Bool
  /-- The `Exit` calls that have joined the worker and not yet closed the descriptors. -/
  closing : Nat
  /-- `std::terminate` has ended the process. -/
  terminated : Bool
  /-- The calls so far, newest first. -/
  history : List HandlerCall

/-- What `poll` reports. -/
inductive PollResult
  | aborted
  | idle
  | timedOut
  | failed
  deriving DecidableEq, Repr

/-- What `pread` finds in the idle state. -/
inductive IdleState
  | endOfFile
  | idle
  | busy
  deriving DecidableEq, Repr

/-- The steps of the clients and of the worker. -/
inductive HandlerEvent
  /-- `Init`, and whether the two descriptors can be opened. -/
  | init (idleOpens eventOpens : Bool)
  | acquire (duration : Int32) (now : Timespec)
  /-- The section of `Exit` under the lock. -/
  | exit
  /-- `Exit` joins the worker. -/
  | join
  /-- `Exit` closes the descriptors and returns. -/
  | close
  /-- The section of `Routine` under the lock. -/
  | lock
  /-- The worker calls `WaitForIdle`. -/
  | waitForIdle
  | poll (result : PollResult)
  | pread (state : IdleState)
  | release
  deriving DecidableEq, Repr

/-- The constructor. -/
def Handler.constructed : Handler where
  mState := .uninitialized
  mDurationMs := 0
  mLastTimespec := ⟨0, 0⟩
  eventFd := none
  worker := .absent
  joining := false
  closing := 0
  terminated := false
  history := []

/-- Record a call. -/
def Handler.record (s : Handler) (call : HandlerCall) : Handler :=
  { s with history := call :: s.history }

/-- `CalcTimespecDiffMs`. -/
def calcTimespecDiffMs (start stop : Timespec) : Int64 :=
  (stop.sec - start.sec) * 1000 + (stop.nsec - start.nsec) / 1000000

/-- The duration `Acquire` asks for: 650 ms more than requested, within `mMinDurationMs` and
`mMaxDurationMs`. -/
def finalDuration (duration : Int32) : Int32 :=
  let inputDuration := duration + 650
  if inputDuration > 5650 then 5650
  else if inputDuration > 1400 then inputDuration
  else 1400

/-- The duration of the previous hint covers this one. -/
def Handler.covers (s : Handler) (duration : Int32) (now : Timespec) : Bool :=
  s.mState != .idle && decide (finalDuration duration ≤ s.mDurationMs) &&
    decide (calcTimespecDiffMs s.mLastTimespec now ≤
      (s.mDurationMs - finalDuration duration).toInt64)

/-- `Init`; replacing a worker that has not been joined ends the process. -/
def Handler.init (s : Handler) (idleOpens eventOpens : Bool) : Handler :=
  if s.mState ≠ .uninitialized then s
  else if !idleOpens then s
  else if !eventOpens then { s with eventFd := none }
  else
    { s with
      mState := .idle
      eventFd := some 0
      worker := .locking
      terminated := s.worker != .absent }

/-- `AbortWaitLocked`. -/
def Handler.abortWaitLocked (s : Handler) : Handler :=
  { s with eventFd := s.eventFd.map (· + 1) }

/-- The section of `Exit` under the lock. -/
def Handler.exit (s : Handler) : Handler :=
  if s.mState = .uninitialized then s
  else { s.abortWaitLocked with mState := .uninitialized, joining := true }

/-- `Acquire`. -/
def Handler.acquire (s : Handler) (duration : Int32) (now : Timespec) : Handler :=
  if s.mState = .uninitialized then s
  else if s.covers duration now then s
  else
    let s := { s with mLastTimespec := now, mDurationMs := finalDuration duration }
    let s := s.record (.acquire s.mDurationMs)
    let s := match s.mState with
      | .waiting => s.abortWaitLocked
      | .idle => s.record .perfLock
      | _ => s
    { s with mState := .interaction }

/-- The section of `Routine` under the lock. -/
def Handler.lock (s : Handler) : Handler :=
  match s.mState with
  | .idle => s
  | .uninitialized => { s with worker := .returned }
  | _ => { s with mState := .waiting, worker := .calling }

/-- `Release`. -/
def Handler.release (s : Handler) : Handler :=
  if s.mState = .waiting then { s.record .perfRel with mState := .idle, worker := .locking }
  else { s with eventFd := s.eventFd.map fun _ => 0, worker := .locking }

/-- What a `poll` leads to in the worker. -/
def WorkerThread.poll (worker : WorkerThread) (result : PollResult) : WorkerThread :=
  match worker, result with
  | .polling timeout, .timedOut => .reading timeout
  | .polling _, .aborted | .polling _, .failed => .releasing
  | .pollingIdle _, _ => .releasing
  | worker, _ => worker

/-- What the idle state leads to in the worker. -/
def WorkerThread.pread (worker : WorkerThread) (state : IdleState) : WorkerThread :=
  match worker, state with
  | .reading timeout, .busy => .pollingIdle timeout
  | .reading _, _ => .releasing
  | worker, _ => worker

/-- One step; a step that is not possible changes nothing. -/
def Handler.step (s : Handler) (e : HandlerEvent) : Handler :=
  if s.terminated then s
  else match e with
    | .init idleOpens eventOpens => s.init idleOpens eventOpens
    | .acquire duration now => s.acquire duration now
    | .exit => s.exit
    | .join =>
      if s.joining && s.worker == .returned then
        { s with worker := .absent, joining := false, closing := s.closing + 1 }
      else s
    | .close =>
      if s.closing = 0 then s else { s with eventFd := none, closing := s.closing - 1 }
    | .lock => if s.worker = .locking then s.lock else s
    | .waitForIdle =>
      if s.worker = .calling then
        { s.record (.waitForIdle s.mDurationMs) with worker := .polling s.mDurationMs }
      else s
    | .poll result =>
      if result = .aborted ∧ s.eventFd = some 0 then s else { s with worker := s.worker.poll result }
    | .pread state => { s with worker := s.worker.pread state }
    | .release => if s.worker = .releasing then s.release else s

/-- `Acquire` changes nothing or takes an initialized handler to `INTERACTION`: out of a wait it raises
the counter, out of `IDLE` it starts the hint. -/
theorem Handler.acquire_cases (s : Handler) (duration : Int32) (now : Timespec) :
    s.acquire duration now = s ∨ s.mState ≠ .uninitialized ∧
      s.acquire duration now =
        { s with
          mState := .interaction
          mDurationMs := finalDuration duration
          mLastTimespec := now
          eventFd := if s.mState = .waiting then s.eventFd.map (· + 1) else s.eventFd
          history := (if s.mState = .idle then [.perfLock] else []) ++
            .acquire (finalDuration duration) :: s.history } := by
  unfold Handler.acquire
  split
  · exact .inl rfl
  next hinit =>
    split
    · exact .inl rfl
    · refine .inr ⟨hinit, ?_⟩
      cases hstate : s.mState with
      | uninitialized => exact absurd hstate hinit
      | idle | interaction | waiting => simp [record, abortWaitLocked]

/-- What holds in a state holds after a step from it when each thing a step can do keeps it; a step
that is not possible needs no care. -/
theorem Handler.step_rule (P : Handler → Prop) {s : Handler} (e : HandlerEvent) (hsame : P s)
    (hinit : ∀ idleOpens eventOpens, P (s.init idleOpens eventOpens))
    (hacquire : ∀ duration now, e = .acquire duration now → P (s.acquire duration now))
    (hexit : e = .exit → s.terminated = false → P s.exit)
    (hjoin : s.worker = .returned →
      P { s with worker := .absent, joining := false, closing := s.closing + 1 })
    (hclose : P { s with eventFd := none, closing := s.closing - 1 })
    (hlock : s.worker = .locking → P s.lock)
    (hwait : P { s.record (.waitForIdle s.mDurationMs) with worker := .polling s.mDurationMs })
    (hpoll : ∀ result, P { s with worker := s.worker.poll result })
    (hpread : ∀ state, P { s with worker := s.worker.pread state })
    (hrelease : s.worker = .releasing → P s.release) : P (s.step e) := by
  unfold Handler.step
  split
  · exact hsame
  next hrunning =>
    cases e with
    | init idleOpens eventOpens => exact hinit idleOpens eventOpens
    | acquire duration now => exact hacquire duration now rfl
    | exit => exact hexit rfl (Bool.eq_false_iff.mpr hrunning)
    | pread state => exact hpread state
    | join =>
      dsimp only
      split
      next hreturned => exact hjoin (by simpa using (Bool.and_eq_true_iff.mp hreturned).2)
      · exact hsame
    | close =>
      dsimp only
      split
      · exact hsame
      · exact hclose
    | lock =>
      dsimp only
      split
      next hworker => exact hlock hworker
      · exact hsame
    | waitForIdle =>
      dsimp only
      split
      · exact hwait
      · exact hsame
    | poll result =>
      dsimp only
      split
      · exact hsame
      · exact hpoll result
    | release =>
      dsimp only
      split
      next hworker => exact hrelease hworker
      · exact hsame

end Yoshino.PowerHal
