import Yoshino.Display.SyncTask

/-!
# The phases of a task

With one client, and a caller that sleeps until it is notified, owner, client and worker go through
fixed phases together: the object is constructed, each call is answered before the next one begins, and
the last call is that of the destructor.
-/

namespace Yoshino.Display.SyncTask

open Yoshino.Library.Threads

variable {ι Task : Type}

open Classical in
/-- A list put together from one list for each client, each in its order. -/
def Interleaves (parts : ι → List Task) (whole : List Task) : Prop :=
  ∃ labelled : List (ι × Task), labelled.map Prod.snd = whole ∧
    ∀ i, (labelled.filter fun x => x.1 = i).map Prod.snd = parts i

/-- Of one client the list is that of the client. -/
theorem Interleaves.eq [Subsingleton ι] {parts : ι → List Task} {whole : List Task}
    (h : Interleaves parts whole) (i : ι) : whole = parts i := by
  obtain ⟨labelled, hwhole, hparts⟩ := h
  rw [← hwhole, ← hparts i]
  congr 1
  refine (List.filter_eq_self.mpr fun x _ => ?_).symm
  simpa using Subsingleton.elim x.1 i

/-- The list of one client. -/
theorem interleaves_self [Subsingleton ι] (parts : ι → List Task) (i : ι) : Interleaves parts (parts i) := by
  refine ⟨(parts i).map (i, ·), by simp [Function.comp_def], fun j => ?_⟩
  obtain rfl := Subsingleton.elim i j
  simp [Function.comp_def, List.filter_map]

/-- Nobody has given anything. -/
theorem interleaves_nil [IsEmpty ι] (parts : ι → List Task) : Interleaves parts [] :=
  ⟨[], rfl, fun i => isEmptyElim i⟩

variable [DecidableEq ι]

/-- Where a thread of the system is. -/
abbrev Place (Task : Type) := Status Mutex Condition (Pc Task)

/-- The worker starts. -/
inductive Starting : Place Task → Prop
  | start : Starting (.running (.worker .start))
  | lockWorker : Starting (.running (.worker .lockWorker))
  | lockCaller : Starting (.running (.worker .lockCaller))

/-- The worker waits for a task. -/
inductive Resting : Place Task → Prop
  | asleep : Resting (.asleep .worker .worker (.worker .check))
  | woken : Resting (.woken .worker (.worker .check))

/-- The worker is about to wait for a task. -/
inductive Settling : Place Task → Prop
  | loop : Settling (.running (.worker .loop))
  | check : Settling (.running (.worker .check))
  | wait : Settling (.running (.worker .wait))
  | resting {w : Place Task} (h : Resting w) : Settling w

/-- The members at rest. -/
structure Memory.Idle (m : Memory Task) : Prop where
  spawned : m.spawned = true
  pending : m.pendingCode = false
  exit : m.workerThreadExit = false
  executed : m.executed = m.requested

/-- The members with a task that is not begun. -/
structure Memory.Asked (m : Memory Task) (task : Option Task) : Prop where
  spawned : m.spawned = true
  pending : m.pendingCode = true
  exit : m.workerThreadExit = task.isNone
  current : m.task = task
  requested : m.requested = m.executed ++ task.toList

/-- The members after the task. -/
structure Memory.Answered (m : Memory Task) (task : Option Task) : Prop where
  spawned : m.spawned = true
  exit : m.workerThreadExit = task.isNone
  executed : m.executed = m.requested

/-- The worker with a task. -/
inductive Working (task : Option Task) : Place Task → Memory Task → Prop
  | woken {m} (h : m.Asked task) : Working task (.woken .worker (.worker .check)) m
  | check {m} (h : m.Asked task) : Working task (.running (.worker .check)) m
  | onTask {m} (h : m.Asked task) : Working task (.running (.worker .onTask)) m
  | clear {m} (h : m.Answered task) (hpending : m.pendingCode = true) :
      Working task (.running (.worker .clear)) m
  | lockDone {m} (h : m.Answered task) (hpending : m.pendingCode = false) :
      Working task (.running (.worker .lockDone)) m

/-- The worker after a task: it waits for the next one, or it ends. -/
inductive Returned : Option Task → Place Task → Memory Task → Prop
  | settling {task w m} (hw : Settling w) (hm : m.Idle) : Returned (some task) w m
  | loop {m} (h : m.Answered none) : Returned none (.running (.worker .loop)) m
  | leave {m} (h : m.Answered none) : Returned none (.running (.worker .leave)) m
  | stopped {m} (h : m.Answered none) : Returned none (.running (.worker .stopped)) m

/-- The constructor and the worker. -/
inductive Creating : Place Task → Place Task → Memory Task → Prop
  | create : Creating (.running .create) (.running (.worker .start)) {}
  | spawn : Creating (.running .spawn) (.running (.worker .start)) {}
  | waitReady {w} (hw : Starting w) : Creating (.running .waitReady) w { spawned := true }
  | asleep {w} (hw : Starting w) : Creating (.asleep .caller .caller .unlockReady) w { spawned := true }
  | notifyReady : Creating (.asleep .caller .caller .unlockReady) (.running (.worker .notifyReady))
      { spawned := true }
  | woken : Creating (.woken .caller .unlockReady) (.running (.worker .unlockReady)) { spawned := true }
  | settling {w} (hw : Settling w) : Creating (.woken .caller .unlockReady) w { spawned := true }
  | unlockReady {w} (hw : Settling w) : Creating (.running .unlockReady) w { spawned := true }

/-- A call of `PerformTask` and the worker, with the tasks that are not handed over yet. -/
inductive Calling (task : Option Task) (rest : List Task) :
    List Task → Place Task → Place Task → Memory Task → Prop
  | lockWorker {w m} (hw : Settling w) (hm : m.Idle) :
      Calling task rest (task.toList ++ rest) (.running (.calling .lockWorker task rest)) w m
  | write {w m} (hw : Resting w) (hm : m.Idle) :
      Calling task rest (task.toList ++ rest) (.running (.calling .write task rest)) w m
  | notify {w m} (hw : Resting w) (hm : m.Asked task) :
      Calling task rest rest (.running (.calling .notify task rest)) w m
  | unlockWorker {m} (hm : m.Asked task) :
      Calling task rest rest (.running (.calling .unlockWorker task rest))
        (.woken .worker (.worker .check)) m
  | wait {w m} (hw : Working task w m) :
      Calling task rest rest (.running (.calling .wait task rest)) w m
  | asleep {w m} (hw : Working task w m) :
      Calling task rest rest (.asleep .caller .caller (.calling .unlockCaller task rest)) w m
  | notifyDone {m} (hm : m.Answered task) (hpending : m.pendingCode = false) :
      Calling task rest rest (.asleep .caller .caller (.calling .unlockCaller task rest))
        (.running (.worker .notifyDone)) m
  | unlockDone {m} (hm : m.Answered task) (hpending : m.pendingCode = false) :
      Calling task rest rest (.woken .caller (.calling .unlockCaller task rest))
        (.running (.worker .unlockDone)) m
  | woken {w m} (hw : Returned task w m) :
      Calling task rest rest (.woken .caller (.calling .unlockCaller task rest)) w m
  | unlockCaller {w m} (hw : Returned task w m) :
      Calling task rest rest (.running (.calling .unlockCaller task rest)) w m

/-- The client and the worker while the owner owns the object. -/
inductive Serving : List Task → Place Task → Place Task → Memory Task → Prop
  | starting {todo w m} (hw : Settling w) (hm : m.Idle) : Serving todo (.running (.starting todo)) w m
  | between {todo w m} (hw : Settling w) (hm : m.Idle) : Serving todo (.running (.between todo)) w m
  | calling {task rest left c w m} (h : Calling (some task) rest left c w m) : Serving left c w m

/-- The destructor and the worker. -/
inductive Destroying : Place Task → Place Task → Memory Task → Prop
  | destroy {w m} (hw : Settling w) (hm : m.Idle) : Destroying (.running .destroy) w m
  | calling {c w m} (h : Calling none [] [] c w m) : Destroying c w m
  | join {w m} (hw : Returned none w m) : Destroying (.running .join) w m
  | destroyed {m} (hm : m.Answered none) :
      Destroying (.running .destroyed) (.running (.worker .stopped)) m

/-- The phase of the system. -/
inductive Phase (tasks : ι → List Task) (s : System ι Task) : Prop
  | creating (hclients : ∀ i, s.status (.client i) = .running (.starting (tasks i)))
      (h : Creating (s.status .owner) (s.status .worker) s.memory)
  | serving {left : List Task} {c : Place Task} (howner : s.status .owner = .running .owning)
      (hclients : ∀ i, s.status (.client i) = c) (hnobody : IsEmpty ι → c = .running (.between []))
      (htasks : Interleaves tasks (s.memory.requested ++ left))
      (h : Serving left c (s.status .worker) s.memory)
  | destroying (hclients : ∀ i, s.status (.client i) = .running (.between []))
      (htasks : Interleaves tasks s.memory.requested)
      (h : Destroying (s.status .owner) (s.status .worker) s.memory)

omit [DecidableEq ι] in
/-- Every instruction takes and gives back the mutexes as its place says. -/
theorem disciplined : Disciplined (program : Pc Task → Instr (Thread ι) Mutex Condition (Memory Task) (Pc Task))
    holds := by
  rintro (_ | _ | _ | _ | _ | _ | _ | _ | todo | (_ | ⟨task, rest⟩) | ⟨pc, task, rest⟩ | pc)
  case calling =>
    cases pc
    case lockWorker =>
      simpa [program, performTask, Respects, holds, callHolds] using Set.pair_comm _ _
    case unlockCaller => cases task <;> simp [program, performTask, Respects, holds, callHolds]
    all_goals simp [program, performTask, Respects, holds, callHolds]
  case worker =>
    cases pc
    case loop =>
      intro m
      cases h : m.workerThreadExit <;> simp [h, holds, workerHolds]
    case check =>
      intro m
      cases h : m.pendingCode <;> simp [h, holds, workerHolds]
    all_goals simp [program, onThreadCallback, Respects, holds, workerHolds]
  all_goals simp [program, Respects, holds, callHolds]

section Worker

variable {s s' : System ι Task} {callers : Prop}

/-- The worker on its way to rest. -/
theorem Settling.step (h : Settling (s.status .worker)) (hm : s.memory.Idle)
    (hstep : Step program (wakes callers) .worker s s') :
    Settling (s'.status .worker) ∧ s'.memory = s.memory ∧
      ∀ t, t ≠ .worker → s'.status t = s.status t := by
  generalize hw : s.status .worker = w at h
  cases h with
  | loop =>
    obtain rfl := hstep.of_act hw rfl
    exact ⟨by simpa [hm.exit] using .check, rfl, fun t ht => by simp [ht]⟩
  | check =>
    obtain rfl := hstep.of_act hw rfl
    exact ⟨by simpa [hm.pending] using .wait, rfl, fun t ht => by simp [ht]⟩
  | wait =>
    obtain rfl := hstep.of_wait hw rfl
    exact ⟨by simpa using .resting .asleep, rfl, fun t ht => by simp [ht]⟩
  | resting h =>
    cases h with
    | asleep =>
      obtain ⟨-, rfl⟩ := hstep.of_asleep hw
      exact ⟨by simpa using .resting .woken, rfl, fun t ht => by simp [ht]⟩
    | woken =>
      obtain ⟨-, rfl⟩ := hstep.of_woken hw
      exact ⟨by simpa using .check, rfl, fun t ht => by simp [ht]⟩

omit [DecidableEq ι] in
/-- The task is done, unless the worker is to exit. -/
theorem Memory.Asked.onTask {m : Memory Task} {task : Option Task} (h : m.Asked task) :
    m.onTask.Answered task ∧ m.onTask.requested = m.requested ∧ m.onTask.pendingCode = true := by
  cases task with
  | none =>
    have hsame : m.onTask = m := by simp [Memory.onTask, h.exit]
    rw [hsame]
    exact ⟨⟨h.spawned, h.exit, by simp [h.requested]⟩, rfl, h.pending⟩
  | some task =>
    have hdone : m.onTask = { m with executed := m.executed ++ [task] } := by
      simp [Memory.onTask, h.exit, h.current]
    rw [hdone]
    exact ⟨⟨h.spawned, h.exit, by simp [h.requested]⟩, rfl, h.pending⟩

/-- The worker with a task, until it needs the mutex of the caller. -/
theorem Working.step {task : Option Task} (h : Working task (s.status .worker) s.memory)
    (hbusy : s.status .worker ≠ .running (.worker .lockDone))
    (hstep : Step program (wakes callers) .worker s s') :
    Working task (s'.status .worker) s'.memory ∧ s'.memory.requested = s.memory.requested ∧
      ∀ t, t ≠ .worker → s'.status t = s.status t := by
  generalize hw : s.status .worker = w at h hbusy
  generalize hmem : s.memory = m at h
  cases h with
  | woken hm =>
    obtain ⟨-, rfl⟩ := hstep.of_woken hw
    exact ⟨by simpa [hmem] using .check hm, by simp [hmem], fun t ht => by simp [ht]⟩
  | check hm =>
    obtain rfl := hstep.of_act hw rfl
    exact ⟨by simpa [hmem, hm.pending] using .onTask hm, by simp [hmem], fun t ht => by simp [ht]⟩
  | onTask hm =>
    obtain rfl := hstep.of_act hw rfl
    obtain ⟨hanswered, hrequested, hpending⟩ := hm.onTask
    exact ⟨by simpa [hmem] using .clear hanswered hpending, by simp [hmem, hrequested],
      fun t ht => by simp [ht]⟩
  | clear hm _ =>
    obtain rfl := hstep.of_act hw rfl
    exact ⟨by simpa [hmem] using .lockDone ⟨hm.spawned, hm.exit, hm.executed⟩ rfl, by simp [hmem],
      fun t ht => by simp [ht]⟩
  | lockDone hm hpending => exact absurd rfl hbusy

/-- The worker after a task. -/
theorem Returned.step {task : Option Task} (h : Returned task (s.status .worker) s.memory)
    (hstep : Step program (wakes callers) .worker s s') :
    Returned task (s'.status .worker) s'.memory ∧ s'.memory = s.memory ∧
      ∀ t, t ≠ .worker → s'.status t = s.status t := by
  generalize hw : s.status .worker = w at h
  generalize hmem : s.memory = m at h
  cases h with
  | settling hsettling hm =>
    subst hw hmem
    obtain ⟨hsettling', hsame, hothers⟩ := hsettling.step hm hstep
    exact ⟨.settling hsettling' (hsame ▸ hm), hsame, hothers⟩
  | loop hm =>
    obtain rfl := hstep.of_act hw rfl
    exact ⟨by simpa [hmem, hm.exit] using .leave hm, hmem, fun t ht => by simp [ht]⟩
  | leave hm =>
    obtain rfl := hstep.of_unlock hw rfl
    exact ⟨by simpa [hmem] using .stopped hm, hmem, fun t ht => by simp [ht]⟩
  | stopped hm => exact absurd hstep (Step.not_of_halt hw rfl)

/-- A step of the worker during a call: nobody but the caller is woken. -/
theorem Calling.worker_step {task : Option Task} {rest left : List Task} {t : Thread ι} (ht : t ≠ .worker)
    (hawake : ∀ u, u ≠ t → u ≠ .worker → ∀ m next, s.status u ≠ .asleep .caller m next)
    (h : Calling task rest left (s.status t) (s.status .worker) s.memory)
    (hholders : HoldersMatch holds s) (hstep : Step program (wakes callers) .worker s s') :
    Calling task rest left (s'.status t) (s'.status .worker) s'.memory ∧
      s'.memory.requested = s.memory.requested ∧
      ∀ u, u ≠ t → u ≠ .worker → s'.status u = s.status u := by
  generalize hc : s.status t = c at h
  generalize hw : s.status .worker = w at h
  generalize hmem : s.memory = m at h
  cases h with
  | lockWorker hsettling hm =>
    subst hw hmem
    obtain ⟨hsettling', hsame, hothers⟩ := hsettling.step hm hstep
    rw [hothers t ht, hc, hsame]
    exact ⟨.lockWorker hsettling' hm, rfl, fun u _ hu => hothers u hu⟩
  | write hresting hm =>
    cases hresting with
    | asleep =>
      obtain ⟨-, rfl⟩ := hstep.of_asleep hw
      exact ⟨by simpa [ht, hc, hmem] using .write .woken hm, by simp [hmem], fun u _ hu => by simp [hu]⟩
    | woken =>
      have hfree := (hstep.of_woken hw).1
      exact absurd (by simp [hc, held, holds, callHolds]) (hholders.notMem_of_free hfree t)
  | notify hresting hm =>
    cases hresting with
    | asleep =>
      obtain ⟨-, rfl⟩ := hstep.of_asleep hw
      exact ⟨by simpa [ht, hc, hmem] using .notify .woken hm, by simp [hmem], fun u _ hu => by simp [hu]⟩
    | woken =>
      have hfree := (hstep.of_woken hw).1
      exact absurd (by simp [hc, held, holds, callHolds]) (hholders.notMem_of_free hfree t)
  | unlockWorker hm =>
    have hfree := (hstep.of_woken hw).1
    exact absurd (by simp [hc, held, holds, callHolds]) (hholders.notMem_of_free hfree t)
  | wait hworking =>
    subst hw hmem
    have hbusy : s.status .worker ≠ .running (.worker .lockDone) := by
      intro hw
      have hfree := (hstep.of_lock hw rfl).1
      exact absurd (by simp [hc, held, holds, callHolds]) (hholders.notMem_of_free hfree t)
    obtain ⟨hworking', hsame, hothers⟩ := hworking.step hbusy hstep
    rw [hothers t ht, hc]
    exact ⟨.wait hworking', hsame, fun u _ hu => hothers u hu⟩
  | asleep hworking =>
    by_cases hbusy : w = .running (.worker .lockDone)
    · subst hbusy
      cases hworking with
      | lockDone hm hpending =>
        obtain ⟨-, rfl⟩ := hstep.of_lock hw rfl
        exact ⟨by simpa [ht, hc, hmem] using .notifyDone hm hpending, by simp [hmem],
          fun u _ hu => by simp [hu]⟩
    · subst hw hmem
      obtain ⟨hworking', hsame, hothers⟩ := hworking.step hbusy hstep
      rw [hothers t ht, hc]
      exact ⟨.asleep hworking', hsame, fun u _ hu => hothers u hu⟩
  | notifyDone hm hpending =>
    obtain ⟨u, m', next', hsleeper, rfl⟩ | ⟨hnobody, -⟩ := hstep.of_notify hw rfl
    · obtain rfl : u = t := by
        by_contra hu
        refine hawake u hu ?_ _ _ hsleeper
        rintro rfl
        simp [hw] at hsleeper
      obtain ⟨-, rfl, rfl⟩ := Status.asleep.inj (hc.symm.trans hsleeper)
      exact ⟨by simpa [ht, hmem] using .unlockDone hm hpending, by simp [hmem],
        fun u hu hu' => by simp [hu, hu']⟩
    · exact absurd hc (hnobody t _ _)
  | unlockDone hm hpending =>
    obtain rfl := hstep.of_unlock hw rfl
    have hreturned : Returned task (.running (.worker .loop)) m := by
      cases task with
      | none => exact .loop hm
      | some task => exact .settling .loop ⟨hm.spawned, hpending, hm.exit, hm.executed⟩
    exact ⟨by simpa [ht, hc, hmem] using .woken hreturned, by simp [hmem], fun u _ hu => by simp [hu]⟩
  | woken hreturned =>
    subst hw hmem
    obtain ⟨hreturned', hsame, hothers⟩ := hreturned.step hstep
    rw [hothers t ht, hc]
    exact ⟨.woken hreturned', by rw [hsame], fun u _ hu => hothers u hu⟩
  | unlockCaller hreturned =>
    subst hw hmem
    obtain ⟨hreturned', hsame, hothers⟩ := hreturned.step hstep
    rw [hothers t ht, hc]
    exact ⟨.unlockCaller hreturned', by rw [hsame], fun u _ hu => hothers u hu⟩

/-- A step of the worker during the constructor. -/
theorem Creating.worker_step (hawake : ∀ i m next, s.status (.client i) ≠ .asleep .caller m next)
    (h : Creating (s.status .owner) (s.status .worker) s.memory) (hholders : HoldersMatch holds s)
    (hstep : Step program (wakes callers) .worker s s') :
    Creating (s'.status .owner) (s'.status .worker) s'.memory ∧
      ∀ i, s'.status (.client i) = s.status (.client i) := by
  generalize hc : s.status .owner = c at h
  generalize hw : s.status .worker = w at h
  generalize hmem : s.memory = m at h
  have hidle : ({ spawned := true } : Memory Task).Idle := ⟨rfl, rfl, rfl, rfl⟩
  cases h with
  | create =>
    obtain ⟨hspawned, -⟩ := hstep.of_await hw rfl
    simp [hmem] at hspawned
  | spawn =>
    obtain ⟨hspawned, -⟩ := hstep.of_await hw rfl
    simp [hmem] at hspawned
  | waitReady hstarting =>
    cases hstarting with
    | start =>
      obtain ⟨-, rfl⟩ := hstep.of_await hw rfl
      exact ⟨by simpa [hc, hmem] using .waitReady .lockWorker, fun i => by simp⟩
    | lockWorker =>
      obtain ⟨-, rfl⟩ := hstep.of_lock hw rfl
      exact ⟨by simpa [hc, hmem] using .waitReady .lockCaller, fun i => by simp⟩
    | lockCaller =>
      have hfree := (hstep.of_lock hw rfl).1
      exact absurd (by simp [hc, held, holds]) (hholders.notMem_of_free hfree .owner)
  | asleep hstarting =>
    cases hstarting with
    | start =>
      obtain ⟨-, rfl⟩ := hstep.of_await hw rfl
      exact ⟨by simpa [hc, hmem] using .asleep .lockWorker, fun i => by simp⟩
    | lockWorker =>
      obtain ⟨-, rfl⟩ := hstep.of_lock hw rfl
      exact ⟨by simpa [hc, hmem] using .asleep .lockCaller, fun i => by simp⟩
    | lockCaller =>
      obtain ⟨-, rfl⟩ := hstep.of_lock hw rfl
      exact ⟨by simpa [hc, hmem] using .notifyReady, fun i => by simp⟩
  | notifyReady =>
    obtain ⟨u, m', next', hsleeper, rfl⟩ | ⟨hnobody, -⟩ := hstep.of_notify hw rfl
    · obtain rfl : u = .owner := by
        cases u with
        | owner => rfl
        | client i => exact absurd hsleeper (hawake i _ _)
        | worker => simp [hw] at hsleeper
      obtain ⟨-, rfl, rfl⟩ := Status.asleep.inj (hc.symm.trans hsleeper)
      exact ⟨by simpa [hmem] using .woken, fun i => by simp⟩
    · exact absurd hc (hnobody .owner _ _)
  | woken =>
    obtain rfl := hstep.of_unlock hw rfl
    exact ⟨by simpa [hc, hmem] using .settling .loop, fun i => by simp⟩
  | settling hsettling =>
    subst hw
    obtain ⟨hsettling', hsame, hothers⟩ := hsettling.step (hmem ▸ hidle) hstep
    rw [hothers .owner (by simp), hc, hsame, hmem]
    exact ⟨.settling hsettling', fun i => hothers _ (by simp)⟩
  | unlockReady hsettling =>
    subst hw
    obtain ⟨hsettling', hsame, hothers⟩ := hsettling.step (hmem ▸ hidle) hstep
    rw [hothers .owner (by simp), hc, hsame, hmem]
    exact ⟨.unlockReady hsettling', fun i => hothers _ (by simp)⟩

end Worker

section Caller

variable {s s' : System ι Task}

omit [DecidableEq ι] in
/-- A worker that does not hold its mutex is at rest. -/
theorem Settling.resting_of_free (h : Settling (s.status .worker)) (hholders : HoldersMatch holds s)
    (hfree : s.holder .worker = none) : Resting (s.status .worker) := by
  have hnot := hholders.notMem_of_free hfree .worker
  generalize s.status .worker = w at h hnot
  cases h with
  | resting h => exact h
  | _ => simp [held, holds, workerHolds] at hnot

/-- A step of the thread in `PerformTask`: the call goes on, or it returns after its task is done. -/
theorem Calling.caller_step {task : Option Task} {rest left : List Task} {t : Thread ι} (ht : t ≠ .worker)
    (hawake : ∀ u, u ≠ .worker → ∀ m next, s.status u ≠ .asleep .worker m next)
    (h : Calling task rest left (s.status t) (s.status .worker) s.memory)
    (hholders : HoldersMatch holds s) (hstep : Step program (wakes False) t s s') :
    (∀ u, u ≠ t → u ≠ .worker → s'.status u = s.status u) ∧
      ((∃ left', Calling task rest left' (s'.status t) (s'.status .worker) s'.memory ∧
          s'.memory.requested ++ left' = s.memory.requested ++ left) ∨
        s'.status t = .running (if task.isSome then .between rest else .join) ∧ left = rest ∧
          s'.memory = s.memory ∧ Returned task (s'.status .worker) s'.memory) := by
  have hne : Thread.worker ≠ t := Ne.symm ht
  generalize hc : s.status t = c at h
  generalize hw : s.status .worker = w at h
  generalize hmem : s.memory = m at h
  cases h with
  | lockWorker hsettling hm =>
    obtain ⟨hfree, rfl⟩ := hstep.of_lock hc rfl
    have hresting := (hw ▸ hsettling : Settling (s.status .worker)).resting_of_free hholders hfree
    refine ⟨fun u hu _ => by simp [hu], .inl ⟨task.toList ++ rest, ?_, by simp [hmem]⟩⟩
    simpa [hne, hmem] using .write hresting hm
  | write hresting hm =>
    obtain rfl := hstep.of_act hc rfl
    have hasked : (m.request task).Asked task :=
      ⟨hm.spawned, rfl, rfl, rfl, by simp [Memory.request, hm.executed]⟩
    refine ⟨fun u hu _ => by simp [hu], .inl ⟨rest, ?_, by simp [hmem, Memory.request]⟩⟩
    simpa [hne, hw, hmem] using .notify hresting hasked
  | notify hresting hm =>
    obtain ⟨u, m', next', hsleeper, rfl⟩ | ⟨hnobody, rfl⟩ := hstep.of_notify hc rfl
    · obtain rfl : u = .worker := by
        by_contra hu
        exact hawake u hu _ _ hsleeper
      rw [hw] at hsleeper
      subst hsleeper
      cases hresting with
      | asleep =>
        refine ⟨fun u hu hu' => by simp [hu, hu'], .inl ⟨rest, ?_, by simp [hmem]⟩⟩
        simpa [hne, hmem] using .unlockWorker hm
    · cases hresting with
      | asleep => exact absurd hw (hnobody .worker _ _)
      | woken =>
        refine ⟨fun u hu _ => by simp [hu], .inl ⟨rest, ?_, by simp [hmem]⟩⟩
        simpa [hne, hw, hmem] using .unlockWorker hm
  | unlockWorker hm =>
    obtain rfl := hstep.of_unlock hc rfl
    refine ⟨fun u hu _ => by simp [hu], .inl ⟨rest, ?_, by simp [hmem]⟩⟩
    simpa [hne, hw, hmem] using .wait (.woken hm)
  | wait hworking =>
    obtain rfl := hstep.of_wait hc rfl
    refine ⟨fun u hu _ => by simp [hu], .inl ⟨rest, ?_, by simp [hmem]⟩⟩
    simpa [hne, hw, hmem] using .asleep hworking
  | asleep hworking => exact (hstep.of_asleep hc).1.elim
  | notifyDone hm hpending => exact (hstep.of_asleep hc).1.elim
  | unlockDone hm hpending =>
    have hfree := (hstep.of_woken hc).1
    exact absurd (by simp [hw, held, holds, workerHolds]) (hholders.notMem_of_free hfree .worker)
  | woken hreturned =>
    obtain ⟨-, rfl⟩ := hstep.of_woken hc
    refine ⟨fun u hu _ => by simp [hu], .inl ⟨rest, ?_, by simp [hmem]⟩⟩
    simpa [hne, hw, hmem] using .unlockCaller hreturned
  | unlockCaller hreturned =>
    obtain rfl := hstep.of_unlock hc rfl
    refine ⟨fun u hu _ => by simp [hu], .inr ⟨by simp, rfl, by simp [hmem], ?_⟩⟩
    simpa [hne, hw, hmem] using hreturned

/-- A step of the constructor: it goes on, or it returns with the worker on its way to rest. -/
theorem Creating.owner_step (h : Creating (s.status .owner) (s.status .worker) s.memory)
    (hholders : HoldersMatch holds s) (hstep : Step program (wakes False) .owner s s') :
    (∀ i, s'.status (.client i) = s.status (.client i)) ∧
      (Creating (s'.status .owner) (s'.status .worker) s'.memory ∨
        s'.status .owner = .running .owning ∧ s'.memory = { spawned := true } ∧
          Settling (s'.status .worker)) := by
  generalize hc : s.status .owner = c at h
  generalize hw : s.status .worker = w at h
  generalize hmem : s.memory = m at h
  cases h with
  | create =>
    obtain ⟨-, rfl⟩ := hstep.of_lock hc rfl
    exact ⟨fun i => by simp, .inl (by simpa [hw, hmem] using .spawn)⟩
  | spawn =>
    obtain rfl := hstep.of_act hc rfl
    exact ⟨fun i => by simp, .inl (by simpa [hw, hmem] using .waitReady .start)⟩
  | waitReady hstarting =>
    obtain rfl := hstep.of_wait hc rfl
    exact ⟨fun i => by simp, .inl (by simpa [hw, hmem] using .asleep hstarting)⟩
  | asleep hstarting => exact (hstep.of_asleep hc).1.elim
  | notifyReady => exact (hstep.of_asleep hc).1.elim
  | woken =>
    have hfree := (hstep.of_woken hc).1
    exact absurd (by simp [hw, held, holds, workerHolds]) (hholders.notMem_of_free hfree .worker)
  | settling hsettling =>
    obtain ⟨-, rfl⟩ := hstep.of_woken hc
    exact ⟨fun i => by simp, .inl (by simpa [hw, hmem] using .unlockReady hsettling)⟩
  | unlockReady hsettling =>
    obtain rfl := hstep.of_unlock hc rfl
    exact ⟨fun i => by simp, .inr ⟨by simp, by simp [hmem], by simpa [hw] using hsettling⟩⟩

end Caller

end Yoshino.Display.SyncTask
