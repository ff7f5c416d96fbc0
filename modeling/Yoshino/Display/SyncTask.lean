import Yoshino.Library.Threads

/-!
# Handing tasks to a worker thread

`SyncTask` runs tasks on a thread of its own: `PerformTask` hands a task over and sleeps until the
worker has signalled. The owner constructs the object, other threads may call `PerformTask`, and the
owner destroys it when they have finished. Both sides use both mutexes, and the caller's wait has no
predicate.
-/

namespace Yoshino.Display.SyncTask

open Yoshino.Library.Threads

variable {ι Task : Type}

inductive Mutex
  | caller
  | worker
  deriving DecidableEq

inductive Condition
  | caller
  | worker
  deriving DecidableEq

/-- The threads: the owner of the object, the threads that call `PerformTask`, and the worker. -/
inductive Thread (ι : Type)
  | owner
  | client (i : ι)
  | worker
  deriving DecidableEq

/-- The members of the object, with a record of what was asked for and of what was done. -/
structure Memory (Task : Type) where
  /-- Whether the worker thread has been created. -/
  spawned : Bool := false
  /-- `task_code_` and `task_context_`; the destructor passes no task. -/
  task : Option Task := none
  workerThreadExit : Bool := false
  pendingCode : Bool := false
  requested : List Task := []
  executed : List Task := []

/-- The places in `PerformTask` after its first lock. -/
inductive CallPc
  | lockWorker
  | write
  | notify
  | unlockWorker
  | wait
  | unlockCaller

/-- The places in `OnThreadCallback`. -/
inductive WorkerPc
  | start
  | lockWorker
  | lockCaller
  | notifyReady
  | unlockReady
  | loop
  | check
  | wait
  | onTask
  | clear
  | lockDone
  | notifyDone
  | unlockDone
  | leave
  | stopped

/-- The control points of all threads. -/
inductive Pc (Task : Type)
  /-- The constructor. -/
  | create
  | spawn
  | waitReady
  | unlockReady
  /-- The owner between the constructor and the destructor. -/
  | owning
  /-- The destructor. -/
  | destroy
  | join
  | destroyed
  /-- A client before the object is there, and between two calls. -/
  | starting (todo : List Task)
  | between (todo : List Task)
  /-- A client, or the owner in the destructor, in `PerformTask`. -/
  | calling (pc : CallPc) (task : Option Task) (rest : List Task)
  | worker (pc : WorkerPc)

/-- The states of the threads with the object. -/
abbrev System (ι Task : Type) := State (Thread ι) Mutex Condition (Memory Task) (Pc Task)

/-- Task, exit flag and pending flag are set under the worker's mutex. -/
def Memory.request (m : Memory Task) (task : Option Task) : Memory Task :=
  { m with
    task := task
    workerThreadExit := task.isNone
    pendingCode := true
    requested := m.requested ++ task.toList }

/-- `OnTask` is called unless the worker is to exit. -/
def Memory.onTask (m : Memory Task) : Memory Task :=
  if m.workerThreadExit then m else { m with executed := m.executed ++ m.task.toList }

/-- The code of `PerformTask` after its first lock. -/
def performTask (task : Option Task) (rest : List Task) :
    CallPc → Instr (Thread ι) Mutex Condition (Memory Task) (Pc Task)
  | .lockWorker => .lock .worker (.calling .write task rest)
  | .write => .act (·.request task) fun _ => .calling .notify task rest
  | .notify => .notifyOne .worker (.calling .unlockWorker task rest)
  | .unlockWorker => .unlock .worker (.calling .wait task rest)
  | .wait => .wait .caller .caller (.calling .unlockCaller task rest)
  | .unlockCaller => .unlock .caller (if task.isSome then .between rest else .join)

/-- The code of the worker thread. -/
def onThreadCallback : WorkerPc → Instr (Thread ι) Mutex Condition (Memory Task) (Pc Task)
  | .start => .await (·.memory.spawned = true) (.worker .lockWorker)
  | .lockWorker => .lock .worker (.worker .lockCaller)
  | .lockCaller => .lock .caller (.worker .notifyReady)
  | .notifyReady => .notifyOne .caller (.worker .unlockReady)
  | .unlockReady => .unlock .caller (.worker .loop)
  | .loop => .act id fun m => .worker (if m.workerThreadExit then .leave else .check)
  | .check => .act id fun m => .worker (if m.pendingCode then .onTask else .wait)
  | .wait => .wait .worker .worker (.worker .check)
  | .onTask => .act Memory.onTask fun _ => .worker .clear
  | .clear => .act ({ · with pendingCode := false }) fun _ => .worker .lockDone
  | .lockDone => .lock .caller (.worker .notifyDone)
  | .notifyDone => .notifyOne .caller (.worker .unlockDone)
  | .unlockDone => .unlock .caller (.worker .loop)
  | .leave => .unlock .worker (.worker .stopped)
  | .stopped => .halt

/-- The code of all threads. -/
def program : Pc Task → Instr (Thread ι) Mutex Condition (Memory Task) (Pc Task)
  | .create => .lock .caller .spawn
  | .spawn => .act ({ · with spawned := true }) fun _ => .waitReady
  | .waitReady => .wait .caller .caller .unlockReady
  | .unlockReady => .unlock .caller .owning
  | .owning => .await (fun s => ∀ i, s.status (.client i) = .running (.between [])) .destroy
  | .destroy => .lock .caller (.calling .lockWorker none [])
  | .join => .await (fun s => s.status .worker = .running (.worker .stopped)) .destroyed
  | .destroyed => .halt
  | .starting todo => .await (fun s => s.status .owner = .running .owning) (.between todo)
  | .between [] => .halt
  | .between (task :: rest) => .lock .caller (.calling .lockWorker (some task) rest)
  | .calling pc task rest => performTask task rest pc
  | .worker pc => onThreadCallback pc

/-- The start of the system, with the tasks each client is going to perform. -/
def initial (tasks : ι → List Task) : System ι Task where
  memory := {}
  holder _ := none
  status
    | .owner => .running .create
    | .client i => .running (.starting (tasks i))
    | .worker => .running (.worker .start)

/-- Waiting threads may wake by themselves: the worker at any time, which its predicate allows for, and
callers where that is assumed. -/
def wakes (callers : Prop) : Condition → Prop
  | .caller => callers
  | .worker => True

/-- The mutexes held at each place of `PerformTask`. -/
def callHolds : CallPc → Set Mutex
  | .lockWorker | .wait | .unlockCaller => {.caller}
  | .write | .notify | .unlockWorker => {.caller, .worker}

/-- The mutexes the worker holds. -/
def workerHolds : WorkerPc → Set Mutex
  | .start | .lockWorker | .stopped => ∅
  | .lockCaller | .loop | .check | .wait | .onTask | .clear | .lockDone | .leave => {.worker}
  | .notifyReady | .unlockReady | .notifyDone | .unlockDone => {.caller, .worker}

/-- The mutexes held at each control point. -/
def holds : Pc Task → Set Mutex
  | .spawn | .waitReady | .unlockReady => {.caller}
  | .create | .owning | .destroy | .join | .destroyed | .starting _ | .between _ => ∅
  | .calling pc _ _ => callHolds pc
  | .worker pc => workerHolds pc

end Yoshino.Display.SyncTask
