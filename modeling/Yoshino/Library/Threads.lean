import Mathlib.Algebra.BigOperators.Group.Finset.Piecewise
import Mathlib.Logic.Function.Basic
import Mathlib.Logic.Relation
import Mathlib.Order.BooleanAlgebra.Set

/-!
# Threads with mutexes and condition variables

Threads share a memory, mutexes and condition variables, and run a program that gives an instruction for
each control point. A step is one instruction of one thread; the scheduler, the choice of the sleeper
that a notification wakes and, where it is allowed, waking up without any notification are arbitrary.
The discipline of a program says which mutexes are held at each control point, and then the holders
of all mutexes can be read off the control points. A program whose instructions lower a weight comes to a
halt, finished or not; two threads that wait for each other's mutexes stay where they are for ever.
-/

namespace Yoshino.Library.Threads

variable {T M C σ Pc : Type*}

/-- Where a thread is. -/
inductive Status (M C Pc : Type*) where
  | running (pc : Pc)
  /-- Asleep on a condition variable, to go on with the mutex. -/
  | asleep (c : C) (m : M) (next : Pc)
  /-- Awake again, and in need of the mutex. -/
  | woken (m : M) (next : Pc)

/-- The state of a system of threads. -/
structure State (T M C σ Pc : Type*) where
  memory : σ
  holder : M → Option T
  status : T → Status M C Pc

/-- What a thread does at a control point. -/
inductive Instr (T M C σ Pc : Type*) where
  | lock (m : M) (next : Pc)
  | unlock (m : M) (next : Pc)
  /-- Gives the mutex back, sleeps, and takes the mutex again. -/
  | wait (c : C) (m : M) (next : Pc)
  | notifyOne (c : C) (next : Pc)
  /-- A change of the memory, which also decides where to go on. -/
  | act (effect : σ → σ) (next : σ → Pc)
  /-- Held up until a condition is met, such as the end of another thread. -/
  | await (condition : State T M C σ Pc → Prop) (next : Pc)
  | halt

variable [DecidableEq T] [DecidableEq M]

namespace State

/-- One thread goes on to another control point. -/
def goto (s : State T M C σ Pc) (t : T) (status : Status M C Pc) : State T M C σ Pc :=
  { s with status := Function.update s.status t status }

/-- A mutex changes hands. -/
def setHolder (s : State T M C σ Pc) (m : M) (t : Option T) : State T M C σ Pc :=
  { s with holder := Function.update s.holder m t }

omit [DecidableEq M] in
/-- A move changes the status of its own thread. -/
@[simp] theorem status_goto (s : State T M C σ Pc) (t u : T) (status : Status M C Pc) :
    (s.goto t status).status u = if u = t then status else s.status u := Function.update_apply ..

omit [DecidableEq M] in
/-- A thread is where it has moved to. -/
theorem status_goto_self (s : State T M C σ Pc) (t : T) (status : Status M C Pc) :
    (s.goto t status).status t = status := Function.update_self ..

omit [DecidableEq M] in
/-- A move leaves the memory alone. -/
@[simp] theorem memory_goto (s : State T M C σ Pc) (t : T) (status : Status M C Pc) :
    (s.goto t status).memory = s.memory := rfl

omit [DecidableEq M] in
/-- A move leaves the mutexes alone. -/
@[simp] theorem holder_goto (s : State T M C σ Pc) (t : T) (status : Status M C Pc) :
    (s.goto t status).holder = s.holder := rfl

omit [DecidableEq T] in
/-- A mutex gets its new holder, the others keep theirs. -/
@[simp] theorem holder_setHolder (s : State T M C σ Pc) (m m' : M) (t : Option T) :
    (s.setHolder m t).holder m' = if m' = m then t else s.holder m' := Function.update_apply ..

omit [DecidableEq T] in
/-- A change of a mutex moves no thread. -/
@[simp] theorem status_setHolder (s : State T M C σ Pc) (m : M) (t : Option T) :
    (s.setHolder m t).status = s.status := rfl

omit [DecidableEq T] in
/-- A change of a mutex leaves the memory alone. -/
@[simp] theorem memory_setHolder (s : State T M C σ Pc) (m : M) (t : Option T) :
    (s.setHolder m t).memory = s.memory := rfl

end State

/-- One step of a thread; sleepers on some condition variables may wake without a notification. -/
inductive Step (program : Pc → Instr T M C σ Pc) (spurious : C → Prop) (t : T) (s : State T M C σ Pc) :
    State T M C σ Pc → Prop
  | lock {pc m next} (hpc : s.status t = .running pc) (hinstr : program pc = .lock m next)
      (hfree : s.holder m = none) : Step program spurious t s ((s.setHolder m (some t)).goto t (.running next))
  | unlock {pc m next} (hpc : s.status t = .running pc) (hinstr : program pc = .unlock m next)
      (hheld : s.holder m = some t) : Step program spurious t s ((s.setHolder m none).goto t (.running next))
  | wait {pc c m next} (hpc : s.status t = .running pc) (hinstr : program pc = .wait c m next)
      (hheld : s.holder m = some t) : Step program spurious t s ((s.setHolder m none).goto t (.asleep c m next))
  | notify {pc c next u m next'} (hpc : s.status t = .running pc) (hinstr : program pc = .notifyOne c next)
      (hsleeper : s.status u = .asleep c m next') :
      Step program spurious t s ((s.goto u (.woken m next')).goto t (.running next))
  | notifyNobody {pc c next} (hpc : s.status t = .running pc) (hinstr : program pc = .notifyOne c next)
      (hnobody : ∀ u m next', s.status u ≠ .asleep c m next') :
      Step program spurious t s (s.goto t (.running next))
  | act {pc effect next} (hpc : s.status t = .running pc) (hinstr : program pc = .act effect next) :
      Step program spurious t s ({ s with memory := effect s.memory }.goto t (.running (next s.memory)))
  | await {pc condition next} (hpc : s.status t = .running pc) (hinstr : program pc = .await condition next)
      (hmet : condition s) : Step program spurious t s (s.goto t (.running next))
  | relock {m next} (hpc : s.status t = .woken m next) (hfree : s.holder m = none) :
      Step program spurious t s ((s.setHolder m (some t)).goto t (.running next))
  | spurious {c m next} (hpc : s.status t = .asleep c m next) (hspurious : spurious c) :
      Step program spurious t s (s.goto t (.woken m next))

variable {program : Pc → Instr T M C σ Pc} {spurious : C → Prop}

/-- A state that some interleaving of the threads leads to. -/
def Reachable (program : Pc → Instr T M C σ Pc) (spurious : C → Prop) (s₀ s : State T M C σ Pc) : Prop :=
  Relation.ReflTransGen (fun s s' => ∃ t, Step program spurious t s s') s₀ s

/-- No thread can go on. -/
def Blocked (program : Pc → Instr T M C σ Pc) (spurious : C → Prop) (s : State T M C σ Pc) : Prop :=
  ∀ t s', ¬ Step program spurious t s s'

omit [DecidableEq T] [DecidableEq M] in
/-- All threads have come to their ends. -/
def Finished (program : Pc → Instr T M C σ Pc) (s : State T M C σ Pc) : Prop :=
  ∀ t, ∃ pc, s.status t = .running pc ∧ program pc = .halt

/-- What holds at the start and is kept by every step holds in every reachable state. -/
theorem Reachable.invariant {s₀ s : State T M C σ Pc} (inv : State T M C σ Pc → Prop)
    (hstep : ∀ t s s', inv s → Step program spurious t s s' → inv s') (h₀ : inv s₀)
    (hs : Reachable program spurious s₀ s) : inv s := by
  induction hs with
  | refl => exact h₀
  | tail _ hlast ih =>
    obtain ⟨t, hlast⟩ := hlast
    exact hstep t _ _ ih hlast

/-- A step leads from a reachable state to a reachable state. -/
theorem Reachable.step {s₀ s s' : State T M C σ Pc} (hs : Reachable program spurious s₀ s) {t : T}
    (hstep : Step program spurious t s s') : Reachable program spurious s₀ s' :=
  hs.tail ⟨t, hstep⟩

/-- Steps without a wake-up of their own are steps. -/
theorem Step.of_notified {t : T} {s s' : State T M C σ Pc} (hstep : Step program (fun _ => False) t s s') :
    Step program spurious t s s' := by
  cases hstep with
  | lock hpc hinstr hfree => exact .lock hpc hinstr hfree
  | unlock hpc hinstr hheld => exact .unlock hpc hinstr hheld
  | wait hpc hinstr hheld => exact .wait hpc hinstr hheld
  | notify hpc hinstr hsleeper => exact .notify hpc hinstr hsleeper
  | notifyNobody hpc hinstr hnobody => exact .notifyNobody hpc hinstr hnobody
  | act hpc hinstr => exact .act hpc hinstr
  | await hpc hinstr hmet => exact .await hpc hinstr hmet
  | relock hpc hfree => exact .relock hpc hfree
  | spurious _ hspurious => exact hspurious.elim

/-- What is reachable without spurious wake-ups is reachable with them. -/
theorem Reachable.of_notified {s₀ s : State T M C σ Pc} (hs : Reachable program (fun _ => False) s₀ s) :
    Reachable program spurious s₀ s :=
  Relation.ReflTransGen.mono (fun _ _ ⟨t, hstep⟩ => ⟨t, hstep.of_notified⟩) _ _ hs

section Inversion

variable {t : T} {s s' : State T M C σ Pc} {pc next : Pc} {m : M} {c : C}

/-- The step of a thread at a lock. -/
theorem Step.of_lock (hstep : Step program spurious t s s') (hpc : s.status t = .running pc)
    (hinstr : program pc = .lock m next) :
    s.holder m = none ∧ s' = (s.setHolder m (some t)).goto t (.running next) := by
  cases hstep <;> simp_all

/-- The step of a thread at an unlock. -/
theorem Step.of_unlock (hstep : Step program spurious t s s') (hpc : s.status t = .running pc)
    (hinstr : program pc = .unlock m next) : s' = (s.setHolder m none).goto t (.running next) := by
  cases hstep <;> simp_all

/-- The step of a thread that goes to sleep. -/
theorem Step.of_wait (hstep : Step program spurious t s s') (hpc : s.status t = .running pc)
    (hinstr : program pc = .wait c m next) : s' = (s.setHolder m none).goto t (.asleep c m next) := by
  cases hstep <;> simp_all

/-- The step of a thread that notifies: it wakes a sleeper, or there is none. -/
theorem Step.of_notify (hstep : Step program spurious t s s') (hpc : s.status t = .running pc)
    (hinstr : program pc = .notifyOne c next) :
    (∃ u m next', s.status u = .asleep c m next' ∧
        s' = (s.goto u (.woken m next')).goto t (.running next)) ∨
      (∀ u m next', s.status u ≠ .asleep c m next') ∧ s' = s.goto t (.running next) := by
  cases hstep with
  | notify hpc' hinstr' hsleeper =>
    obtain rfl := Status.running.inj (hpc.symm.trans hpc')
    obtain ⟨rfl, rfl⟩ := Instr.notifyOne.inj (hinstr.symm.trans hinstr')
    exact .inl ⟨_, _, _, hsleeper, rfl⟩
  | notifyNobody hpc' hinstr' hnobody =>
    obtain rfl := Status.running.inj (hpc.symm.trans hpc')
    obtain ⟨rfl, rfl⟩ := Instr.notifyOne.inj (hinstr.symm.trans hinstr')
    exact .inr ⟨hnobody, rfl⟩
  | _ => simp_all

/-- The step of a thread at a computation. -/
theorem Step.of_act {effect : σ → σ} {next : σ → Pc} (hstep : Step program spurious t s s')
    (hpc : s.status t = .running pc) (hinstr : program pc = .act effect next) :
    s' = { s with memory := effect s.memory }.goto t (.running (next s.memory)) := by
  cases hstep <;> simp_all

/-- The step of a thread that was held up. -/
theorem Step.of_await {condition : State T M C σ Pc → Prop} (hstep : Step program spurious t s s')
    (hpc : s.status t = .running pc) (hinstr : program pc = .await condition next) :
    condition s ∧ s' = s.goto t (.running next) := by
  cases hstep <;> simp_all

/-- A thread at its end has no step. -/
theorem Step.not_of_halt (hpc : s.status t = .running pc) (hinstr : program pc = .halt) :
    ¬ Step program spurious t s s' := by
  intro hstep
  cases hstep <;> simp_all

/-- The step of a sleeper. -/
theorem Step.of_asleep (hstep : Step program spurious t s s') (hpc : s.status t = .asleep c m next) :
    spurious c ∧ s' = s.goto t (.woken m next) := by
  cases hstep <;> simp_all

/-- The step of a thread that is awake again. -/
theorem Step.of_woken (hstep : Step program spurious t s s') (hpc : s.status t = .woken m next) :
    s.holder m = none ∧ s' = (s.setHolder m (some t)).goto t (.running next) := by
  cases hstep <;> simp_all

end Inversion

/-- The mutexes a thread holds, from those held at the control points. -/
def held (holds : Pc → Set M) : Status M C Pc → Set M
  | .running pc => holds pc
  | .asleep _ m next => holds next \ {m}
  | .woken m next => holds next \ {m}

/-- An instruction changes the mutexes held as its next control point says. -/
def Respects (holds : Pc → Set M) (now : Set M) : Instr T M C σ Pc → Prop
  | .lock m next => m ∉ now ∧ holds next = insert m now
  | .unlock m next => m ∈ now ∧ holds next = now \ {m}
  | .wait _ m next => m ∈ now ∧ holds next = now
  | .notifyOne _ next => holds next = now
  | .act _ next => ∀ memory, holds (next memory) = now
  | .await _ next => holds next = now
  | .halt => True

/-- Every instruction of a program does so. -/
def Disciplined (program : Pc → Instr T M C σ Pc) (holds : Pc → Set M) : Prop :=
  ∀ pc, Respects holds (holds pc) (program pc)

/-- A thread that needs a mutex to go on goes on to a control point that holds it. -/
def Resumes (holds : Pc → Set M) : Status M C Pc → Prop
  | .running _ => True
  | .asleep _ m next => m ∈ holds next
  | .woken m next => m ∈ holds next

/-- The holder of each mutex is the thread whose control point says so. -/
structure HoldersMatch (holds : Pc → Set M) (s : State T M C σ Pc) : Prop where
  holder : ∀ m t, s.holder m = some t ↔ m ∈ held holds (s.status t)
  resumes : ∀ t, Resumes holds (s.status t)

section Holders

variable {holds : Pc → Set M} {s : State T M C σ Pc} {t : T} {m : M} {status : Status M C Pc}

omit [DecidableEq M] in
/-- A move to a status that resumes well keeps all of them so. -/
theorem resumes_goto (h : ∀ u, Resumes holds (s.status u)) (hstatus : Resumes holds status) (u : T) :
    Resumes holds ((s.goto t status).status u) := by
  rw [State.goto]
  dsimp only
  by_cases hu : u = t
  · rwa [hu, Function.update_self]
  · rw [Function.update_of_ne hu]
    exact h u

omit [DecidableEq M] in
/-- A thread that goes on with the mutexes it has. -/
theorem HoldersMatch.goto (h : HoldersMatch holds s) (hkept : held holds status = held holds (s.status t))
    (hresumes : Resumes holds status) : HoldersMatch holds (s.goto t status) := by
  refine ⟨fun m' t' => ?_, resumes_goto h.resumes hresumes⟩
  rw [State.goto]
  dsimp only
  by_cases ht : t' = t
  · subst ht
    rw [Function.update_self, hkept]
    exact h.holder m' t'
  · rw [Function.update_of_ne ht]
    exact h.holder m' t'

omit [DecidableEq T] [DecidableEq M] in
/-- Nobody holds a free mutex. -/
theorem HoldersMatch.notMem_of_free (h : HoldersMatch holds s) (hfree : s.holder m = none) (u : T) :
    m ∉ held holds (s.status u) := by
  intro hu
  rw [(h.holder m u).mpr hu] at hfree
  exact Option.some_ne_none u hfree

/-- A thread that goes on with one more mutex. -/
theorem HoldersMatch.acquire (h : HoldersMatch holds s) (hfree : s.holder m = none)
    (hheld : held holds status = insert m (held holds (s.status t))) (hresumes : Resumes holds status) :
    HoldersMatch holds ((s.setHolder m (some t)).goto t status) := by
  refine ⟨fun m' t' => ?_, resumes_goto (s := s.setHolder m (some t)) h.resumes hresumes⟩
  rw [State.goto, State.setHolder]
  dsimp only
  have hnobody := h.notMem_of_free hfree
  by_cases ht : t' = t <;> by_cases hm : m' = m
  · simp [ht, hm, hheld]
  · simp [ht, hm, hheld, h.holder m' t]
  · subst hm
    simp [Function.update_of_ne ht, hnobody t', Ne.symm ht]
  · simp [Function.update_of_ne ht, Function.update_of_ne hm, h.holder m' t']

/-- A thread that goes on with one mutex less. -/
theorem HoldersMatch.release (h : HoldersMatch holds s) (hheld : s.holder m = some t)
    (hleft : held holds status = held holds (s.status t) \ {m}) (hresumes : Resumes holds status) :
    HoldersMatch holds ((s.setHolder m none).goto t status) := by
  refine ⟨fun m' t' => ?_, resumes_goto (s := s.setHolder m none) h.resumes hresumes⟩
  rw [State.goto, State.setHolder]
  dsimp only
  have honly (u : T) (hu : m ∈ held holds (s.status u)) : u = t :=
    Option.some.inj (((h.holder m u).mpr hu).symm.trans hheld)
  by_cases ht : t' = t <;> by_cases hm : m' = m
  · simp [ht, hm, hleft]
  · simp [ht, hm, hleft, h.holder m' t]
  · subst hm
    simpa [Function.update_of_ne ht] using fun hu => ht (honly t' hu)
  · simp [Function.update_of_ne ht, Function.update_of_ne hm, h.holder m' t']

/-- One step of a disciplined program. -/
theorem HoldersMatch.step (h : HoldersMatch holds s) (hprogram : Disciplined program holds)
    {s' : State T M C σ Pc} (hstep : Step program spurious t s s') : HoldersMatch holds s' := by
  have hrespects {pc : Pc} {instr : Instr T M C σ Pc} (hinstr : program pc = instr) :
      Respects holds (holds pc) instr := hinstr ▸ hprogram pc
  cases hstep with
  | lock hpc hinstr hfree =>
    exact h.acquire hfree (by simp [held, hpc, (hrespects hinstr).2]) trivial
  | unlock hpc hinstr hheld =>
    exact h.release hheld (by simp [held, hpc, (hrespects hinstr).2]) trivial
  | wait hpc hinstr hheld =>
    obtain ⟨hm, hnext⟩ := hrespects hinstr
    exact h.release hheld (by simp [held, hpc, hnext]) (by simpa [Resumes, hnext] using hm)
  | @notify pc c next u m next' hpc hinstr hsleeper =>
    have hne : t ≠ u := by
      rintro rfl
      simp [hpc] at hsleeper
    have hresumes : m ∈ holds next' := by simpa [Resumes, hsleeper] using h.resumes u
    have hwoken : HoldersMatch holds (s.goto u (.woken m next')) :=
      h.goto (by simp [held, hsleeper]) hresumes
    refine hwoken.goto ?_ trivial
    simp [State.goto, Function.update_of_ne hne, held, hpc, show holds _ = holds _ from hrespects hinstr]
  | notifyNobody hpc hinstr _ =>
    exact h.goto (by simp [held, hpc, show holds _ = holds _ from hrespects hinstr]) trivial
  | act hpc hinstr =>
    have hmemory (memory : σ) : HoldersMatch holds { s with memory := memory } := ⟨h.holder, h.resumes⟩
    exact (hmemory _).goto (by simp [held, hpc, hrespects hinstr s.memory]) trivial
  | await hpc hinstr _ =>
    exact h.goto (by simp [held, hpc, show holds _ = holds _ from hrespects hinstr]) trivial
  | @relock m next hpc hfree =>
    have hresumes : m ∈ holds next := by simpa [Resumes, hpc] using h.resumes t
    refine h.acquire hfree ?_ trivial
    simp [held, hpc, Set.insert_sdiff_self_of_mem hresumes]
  | spurious hpc _ =>
    have hresumes := h.resumes t
    rw [hpc] at hresumes
    exact h.goto (by simp [held, hpc]) hresumes

omit [DecidableEq T] [DecidableEq M] in
/-- A mutex that no thread holds at its control point is free. -/
theorem HoldersMatch.free (h : HoldersMatch holds s) (hnobody : ∀ u, m ∉ held holds (s.status u)) :
    s.holder m = none := by
  cases hholder : s.holder m with
  | none => rfl
  | some u => exact absurd ((h.holder m u).mp hholder) (hnobody u)

end Holders

section Descent

variable [Fintype T] {place : Status M C Pc → ℕ} {shared : σ → ℕ}

/-- The weight of a state: that of the memory and of the places of all threads. -/
def load (place : Status M C Pc → ℕ) (shared : σ → ℕ) (s : State T M C σ Pc) : ℕ :=
  shared s.memory + ∑ t, place (s.status t)

/-- An instruction lowers the weight. -/
def Lowers (place : Status M C Pc → ℕ) (shared : σ → ℕ) (memory : σ) (pc : Pc) : Instr T M C σ Pc → Prop
  | .lock _ next => place (.running next) < place (.running pc)
  | .unlock _ next => place (.running next) < place (.running pc)
  | .wait c m next => place (.asleep c m next) < place (.running pc)
  | .notifyOne c next => place (.running next) < place (.running pc) ∧
      ∀ m next', place (.woken m next') + place (.running next) < place (.asleep c m next') + place (.running pc)
  | .act effect next =>
      shared (effect memory) + place (.running (next memory)) < shared memory + place (.running pc)
  | .await _ next => place (.running next) < place (.running pc)
  | .halt => True

omit [DecidableEq M] in
/-- The weight changes with the place of the thread that goes on. -/
theorem load_goto (place : Status M C Pc → ℕ) (shared : σ → ℕ) (s : State T M C σ Pc) (t : T)
    (status : Status M C Pc) :
    load place shared (s.goto t status) + place (s.status t) = load place shared s + place status := by
  have hupdate : (fun u => place ((s.goto t status).status u)) =
      Function.update (fun u => place (s.status u)) t (place status) := by
    funext u
    rw [State.status_goto, Function.update_apply]
    split <;> rfl
  have hsum := Finset.sum_update_of_mem (Finset.mem_univ t) (fun u => place (s.status u)) (place status)
  have hold := Finset.add_sum_erase Finset.univ (fun u => place (s.status u)) (Finset.mem_univ t)
  rw [← Finset.erase_eq] at hsum
  simp only [load, State.memory_goto, hupdate, hsum]
  omega

omit [DecidableEq M] in
/-- A thread that goes on to a place of less weight lowers the weight. -/
theorem load_goto_lt {s : State T M C σ Pc} {t : T} {status : Status M C Pc}
    (hlt : place status < place (s.status t)) : load place shared (s.goto t status) < load place shared s := by
  have hgoto := load_goto place shared s t status
  omega

/-- Every step but a wake-up without a notification lowers the weight. -/
theorem Step.load_lt {t : T} {s s' : State T M C σ Pc}
    (hlowers : ∀ pc, s.status t = .running pc → Lowers place shared s.memory pc (program pc))
    (hwoken : ∀ m next, place (.running next) < place (.woken m next))
    (hstep : Step program (fun _ => False) t s s') : load place shared s' < load place shared s := by
  have hinstr {pc : Pc} {instr : Instr T M C σ Pc} (hpc : s.status t = .running pc)
      (hprogram : program pc = instr) : Lowers place shared s.memory pc instr := hprogram ▸ hlowers pc hpc
  cases hstep with
  | @lock pc m next hpc hprogram _ =>
    exact load_goto_lt (s := s.setHolder m (some t)) (hpc ▸ hinstr hpc hprogram)
  | @unlock pc m next hpc hprogram _ =>
    exact load_goto_lt (s := s.setHolder m none) (hpc ▸ hinstr hpc hprogram)
  | @wait pc c m next hpc hprogram _ =>
    exact load_goto_lt (s := s.setHolder m none) (hpc ▸ hinstr hpc hprogram)
  | @notify pc c next u m next' hpc hprogram hsleeper =>
    have hlt := (hinstr hpc hprogram).2 m next'
    have hne : t ≠ u := by
      rintro rfl
      simp [hpc] at hsleeper
    have hwake := load_goto place shared s u (.woken m next')
    have hgoto := load_goto place shared (s.goto u (.woken m next')) t (.running next)
    rw [State.status_goto, if_neg hne, hpc] at hgoto
    rw [hsleeper] at hwake
    omega
  | notifyNobody hpc hprogram _ => exact load_goto_lt (hpc ▸ (hinstr hpc hprogram).1)
  | @act pc effect next hpc hprogram =>
    have hlt : shared (effect s.memory) + place (.running (next s.memory)) <
        shared s.memory + place (.running pc) := hinstr hpc hprogram
    have hgoto := load_goto place shared { s with memory := effect s.memory } t
      (.running (next s.memory))
    have hmemory : load place shared { s with memory := effect s.memory } + shared s.memory =
        load place shared s + shared (effect s.memory) := by
      simp only [load]
      omega
    rw [hpc] at hgoto
    omega
  | await hpc hprogram _ =>
    have hlt : place (.running _) < place (.running _) := hinstr hpc hprogram
    exact load_goto_lt (hpc ▸ hlt)
  | @relock m next hpc _ => exact load_goto_lt (s := s.setHolder m (some t)) (hpc ▸ hwoken m next)
  | spurious _ hspurious => exact hspurious.elim

omit [Fintype T] in
/-- Where every step lowers a measure, some state without a step is reached. -/
theorem exists_blocked (inv : State T M C σ Pc → Prop) (measure : State T M C σ Pc → ℕ)
    (hstep : ∀ t s s', inv s → Step program spurious t s s' → inv s' ∧ measure s' < measure s)
    {s : State T M C σ Pc} (hs : inv s) :
    ∃ s', Reachable program spurious s s' ∧ inv s' ∧ Blocked program spurious s' := by
  induction hn : measure s using Nat.strong_induction_on generalizing s with
  | _ n ih =>
    subst hn
    by_cases hblocked : Blocked program spurious s
    · exact ⟨s, .refl, hs, hblocked⟩
    · simp only [Blocked, not_forall, not_not] at hblocked
      obtain ⟨t, s₁, hs₁⟩ := hblocked
      obtain ⟨hinv, hlt⟩ := hstep t s s₁ hs hs₁
      obtain ⟨s', hreach, hs'⟩ := ih _ hlt hinv rfl
      exact ⟨s', .head ⟨t, hs₁⟩ hreach, hs'⟩

end Descent

section Crossing

variable {s s' : State T M C σ Pc} {t u v : T}

/-- Two threads each wait for a mutex that the other one holds. -/
structure Crossed (program : Pc → Instr T M C σ Pc) (t u : T) (s : State T M C σ Pc) : Prop where
  first : ∃ pc m next, s.status t = .running pc ∧ program pc = .lock m next ∧ s.holder m = some u
  second : ∃ pc m next, s.status u = .running pc ∧ program pc = .lock m next ∧ s.holder m = some t

/-- A step of another thread neither moves a running thread nor takes a mutex from it. -/
theorem Step.kept (hstep : Step program spurious v s s') (hne : t ≠ v) :
    (∀ pc, s.status t = .running pc → s'.status t = .running pc) ∧
      ∀ m, s.holder m = some t → s'.holder m = some t := by
  have hstatus (r : State T M C σ Pc) (status : Status M C Pc) :
      (r.goto v status).status t = r.status t := by simp [hne]
  cases hstep with
  | @lock _ m' _ _ _ hfree =>
    refine ⟨fun pc hpc => by rw [hstatus]; exact hpc, fun m hm => ?_⟩
    have hm' : m ≠ m' := by
      rintro rfl
      simp [hfree] at hm
    simpa [hm'] using hm
  | @unlock _ m' _ _ _ hheld =>
    refine ⟨fun pc hpc => by rw [hstatus]; exact hpc, fun m hm => ?_⟩
    have hm' : m ≠ m' := by
      rintro rfl
      exact hne (Option.some.inj (hm.symm.trans hheld))
    simpa [hm'] using hm
  | @wait _ _ m' _ _ _ hheld =>
    refine ⟨fun pc hpc => by rw [hstatus]; exact hpc, fun m hm => ?_⟩
    have hm' : m ≠ m' := by
      rintro rfl
      exact hne (Option.some.inj (hm.symm.trans hheld))
    simpa [hm'] using hm
  | @notify _ _ _ w _ _ _ _ hsleeper =>
    refine ⟨fun pc hpc => ?_, fun m hm => hm⟩
    have hw : t ≠ w := by
      rintro rfl
      simp [hpc] at hsleeper
    rw [hstatus, State.status_goto, if_neg hw, hpc]
  | @relock m' _ _ hfree =>
    refine ⟨fun pc hpc => by rw [hstatus]; exact hpc, fun m hm => ?_⟩
    have hm' : m ≠ m' := by
      rintro rfl
      simp [hfree] at hm
    simpa [hm'] using hm
  | _ => exact ⟨fun pc hpc => by rw [hstatus]; exact hpc, fun m hm => hm⟩

/-- Two threads that wait for each other stay where they are. -/
theorem Crossed.step (h : Crossed program t u s) (hstep : Step program spurious v s s') :
    Crossed program t u s' := by
  obtain ⟨pc, m, next, hpc, hinstr, hheld⟩ := h.first
  obtain ⟨pc', m', next', hpc', hinstr', hheld'⟩ := h.second
  have ht : t ≠ v := by
    rintro rfl
    simp [(hstep.of_lock hpc hinstr).1] at hheld
  have hu : u ≠ v := by
    rintro rfl
    simp [(hstep.of_lock hpc' hinstr').1] at hheld'
  exact ⟨⟨pc, m, next, (hstep.kept ht).1 pc hpc, hinstr, (hstep.kept hu).2 m hheld⟩,
    ⟨pc', m', next', (hstep.kept hu).1 pc' hpc', hinstr', (hstep.kept ht).2 m' hheld'⟩⟩

/-- From then on the system never finishes. -/
theorem Crossed.not_finished (h : Crossed program t u s) (hs : Reachable program spurious s s') :
    ¬ Finished program s' := by
  intro hfinished
  obtain ⟨pc, m, next, hpc, hinstr, -⟩ :=
    (hs.invariant (Crossed program t u) (fun _ _ _ h hstep => h.step hstep) h).first
  obtain ⟨pc', hpc', hhalt⟩ := hfinished t
  obtain rfl := Status.running.inj (hpc.symm.trans hpc')
  simp [hinstr] at hhalt

end Crossing

end Yoshino.Library.Threads
