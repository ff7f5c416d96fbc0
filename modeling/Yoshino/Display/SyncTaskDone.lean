import Mathlib.Data.Fintype.EquivFin
import Mathlib.Data.Fintype.Option
import Yoshino.Display.SyncTaskPhases

/-!
# Every task is done once, and nobody waits for ever

With one client at most every step keeps the system in its phases. In each phase some thread can go on
until all have come to their ends, and every step but a wake-up by itself lowers a weight, so the system
can always finish.
-/

namespace Yoshino.Display.SyncTask

open Yoshino.Library.Threads

variable {ι Task : Type} [DecidableEq ι]

section Phases

variable {s s' : System ι Task} {tasks : ι → List Task} {t : Thread ι}

omit [DecidableEq ι] in
/-- Callers sleep on their own condition variable only. -/
theorem Calling.ne_asleep_worker {task : Option Task} {rest left : List Task} {c w : Place Task}
    {m : Memory Task} (h : Calling task rest left c w m) (mutex : Mutex) (next : Pc Task) :
    c ≠ .asleep .worker mutex next := by
  cases h <;> simp

omit [DecidableEq ι] in
/-- The destructor hands no task over. -/
theorem Calling.left_eq_nil {left : List Task} {c w : Place Task} {m : Memory Task}
    (h : Calling none [] left c w m) : left = [] := by
  cases h <;> rfl

omit [DecidableEq ι] in
/-- The phase of a state in which a single client is being served. -/
theorem Phase.of_client [Subsingleton ι] {i : ι} {left : List Task}
    (howner : s.status .owner = .running .owning) (htasks : Interleaves tasks (s.memory.requested ++ left))
    (h : Serving left (s.status (.client i)) (s.status .worker) s.memory) : Phase tasks s :=
  .serving howner (fun j => by rw [Subsingleton.elim j i]) (fun hempty => hempty.elim i) htasks h

/-- A step during the constructor. -/
theorem Phase.step_creating [Subsingleton ι]
    (hclients : ∀ i, s.status (.client i) = .running (.starting (tasks i)))
    (h : Creating (s.status .owner) (s.status .worker) s.memory) (hholders : HoldersMatch holds s)
    (hstep : Step program (wakes False) t s s') : Phase tasks s' := by
  cases t with
  | owner =>
    obtain ⟨hothers, hcreating | ⟨howner, hmem, hsettling⟩⟩ := h.owner_step hholders hstep
    · exact .creating (fun i => by rw [hothers, hclients]) hcreating
    · have hidle : s'.memory.Idle := hmem ▸ ⟨rfl, rfl, rfl, rfl⟩
      rcases isEmpty_or_nonempty ι with hempty | ⟨⟨i⟩⟩
      · have htasks : Interleaves tasks (s'.memory.requested ++ []) := by
          rw [hmem]
          exact interleaves_nil tasks
        exact .serving howner (fun i => hempty.elim i) (fun _ => rfl) htasks (.between hsettling hidle)
      · have htasks : Interleaves tasks (s'.memory.requested ++ tasks i) := by
          rw [hmem]
          exact interleaves_self tasks i
        refine .of_client (i := i) howner htasks ?_
        rw [hothers, hclients]
        exact .starting hsettling hidle
  | client i =>
    obtain ⟨howner, -⟩ := hstep.of_await (hclients i) rfl
    rw [howner] at h
    cases h
  | worker =>
    obtain ⟨hcreating, hothers⟩ := h.worker_step (fun i => by simp [hclients]) hholders hstep
    exact .creating (fun i => by rw [hothers, hclients]) hcreating

/-- A step while the client is served. -/
theorem Phase.step_serving [Subsingleton ι] {left : List Task} {c : Place Task}
    (howner : s.status .owner = .running .owning) (hclients : ∀ i, s.status (.client i) = c)
    (hnobody : IsEmpty ι → c = .running (.between []))
    (htasks : Interleaves tasks (s.memory.requested ++ left))
    (h : Serving left c (s.status .worker) s.memory) (hholders : HoldersMatch holds s)
    (hstep : Step program (wakes False) t s s') : Phase tasks s' := by
  cases t with
  | owner =>
    obtain ⟨hfinished, rfl⟩ := hstep.of_await howner rfl
    obtain rfl : c = .running (.between []) := by
      rcases isEmpty_or_nonempty ι with hempty | ⟨⟨i⟩⟩
      · exact hnobody hempty
      · rw [← hclients i, hfinished i]
    generalize hw : s.status .worker = w at h
    cases h with
    | between hsettling hm =>
      refine .destroying (fun i => by simp [hclients]) (by simpa using htasks) ?_
      simpa [hw] using .destroy hsettling hm
    | calling h => cases h
  | client i =>
    have hc := hclients i
    subst hc
    generalize hc : s.status (.client i) = c at h
    cases h with
    | starting hsettling hm =>
      obtain ⟨-, rfl⟩ := hstep.of_await hc rfl
      refine .of_client (i := i) (by simpa using howner) htasks ?_
      simpa using .between hsettling hm
    | between hsettling hm =>
      cases left with
      | nil => exact absurd hstep (Step.not_of_halt hc rfl)
      | cons task rest =>
        obtain ⟨-, rfl⟩ := hstep.of_lock hc rfl
        refine .of_client (i := i) (by simpa using howner) htasks ?_
        have hcalling : Calling (some task) rest (task :: rest) _ _ _ := .lockWorker hsettling hm
        simpa using .calling hcalling
    | @calling task rest _ _ _ _ h =>
      have hawake (u : Thread ι) (hu : u ≠ .worker) (m : Mutex) (next : Pc Task) :
          s.status u ≠ .asleep .worker m next := by
        cases u with
        | owner => simp [howner]
        | client j =>
          rw [Subsingleton.elim j i, hc]
          exact h.ne_asleep_worker m next
        | worker => exact absurd rfl hu
      obtain ⟨hothers, ⟨left', h', hrequested⟩ | ⟨hreturn, rfl, hmem, hreturned⟩⟩ :=
        Calling.caller_step (t := .client i) (by simp) hawake (hc ▸ h) hholders hstep
      · refine .of_client (i := i) (by rw [hothers _ (by simp) (by simp), howner]) ?_ (.calling h')
        rwa [hrequested]
      · refine .of_client (i := i) (by rw [hothers _ (by simp) (by simp), howner])
          (by rwa [hmem]) ?_
        rw [hreturn]
        cases hreturned with
        | settling hsettling hm => exact .between hsettling hm
  | worker =>
    rcases isEmpty_or_nonempty ι with hempty | ⟨⟨i⟩⟩
    · obtain rfl := hnobody hempty
      cases h with
      | between hsettling hm =>
        obtain ⟨hsettling', hsame, hothers⟩ := hsettling.step hm hstep
        exact .serving (by rw [hothers _ (by simp), howner]) (fun i => hempty.elim i) (fun _ => rfl)
          (by rwa [hsame]) (.between hsettling' (hsame ▸ hm))
      | calling h => cases h
    · have hc := hclients i
      subst hc
      generalize hc : s.status (.client i) = c at h
      cases h with
      | starting hsettling hm =>
        obtain ⟨hsettling', hsame, hothers⟩ := hsettling.step hm hstep
        refine .of_client (i := i) (by rw [hothers _ (by simp), howner]) (by rwa [hsame]) ?_
        rw [hothers _ (by simp), hc, hsame]
        exact .starting hsettling' hm
      | between hsettling hm =>
        obtain ⟨hsettling', hsame, hothers⟩ := hsettling.step hm hstep
        refine .of_client (i := i) (by rw [hothers _ (by simp), howner]) (by rwa [hsame]) ?_
        rw [hothers _ (by simp), hc, hsame]
        exact .between hsettling' hm
      | calling h =>
        have hawake (u : Thread ι) (hu : u ≠ .client i) (hu' : u ≠ .worker) (m : Mutex) (next : Pc Task) :
            s.status u ≠ .asleep .caller m next := by
          cases u with
          | owner => simp [howner]
          | client j => exact absurd (congrArg Thread.client (Subsingleton.elim j i)) hu
          | worker => exact absurd rfl hu'
        obtain ⟨h', hrequested, hothers⟩ :=
          Calling.worker_step (t := .client i) (by simp) hawake (hc ▸ h) hholders hstep
        refine .of_client (i := i) (by rw [hothers _ (by simp) (by simp), howner]) ?_ (.calling h')
        rwa [hrequested]

/-- A step during the destructor. -/
theorem Phase.step_destroying (hclients : ∀ i, s.status (.client i) = .running (.between []))
    (htasks : Interleaves tasks s.memory.requested)
    (h : Destroying (s.status .owner) (s.status .worker) s.memory) (hholders : HoldersMatch holds s)
    (hstep : Step program (wakes False) t s s') : Phase tasks s' := by
  cases t with
  | owner =>
    generalize hc : s.status .owner = c at h
    generalize hw : s.status .worker = w at h
    cases h with
    | destroy hsettling hm =>
      obtain ⟨-, rfl⟩ := hstep.of_lock hc rfl
      refine .destroying (fun i => by simp [hclients]) htasks ?_
      have hcalling : Calling none [] [] _ _ _ := .lockWorker hsettling hm
      simpa [hw] using .calling hcalling
    | calling h =>
      have hawake (u : Thread ι) (hu : u ≠ .worker) (m : Mutex) (next : Pc Task) :
          s.status u ≠ .asleep .worker m next := by
        cases u with
        | owner =>
          rw [hc]
          exact h.ne_asleep_worker m next
        | client j => simp [hclients]
        | worker => exact absurd rfl hu
      obtain ⟨hothers, ⟨left', h', hrequested⟩ | ⟨hreturn, -, hmem, hreturned⟩⟩ :=
        Calling.caller_step (t := .owner) (by simp) hawake (hc ▸ hw ▸ h) hholders hstep
      · obtain rfl := h'.left_eq_nil
        rw [List.append_nil, List.append_nil] at hrequested
        exact .destroying (fun i => by rw [hothers _ (by simp) (by simp), hclients]) (by rwa [hrequested])
          (.calling h')
      · refine .destroying (fun i => by rw [hothers _ (by simp) (by simp), hclients])
          (by rwa [hmem]) ?_
        rw [hreturn]
        exact .join hreturned
    | join hreturned =>
      obtain ⟨hstopped, rfl⟩ := hstep.of_await hc rfl
      refine .destroying (fun i => by simp [hclients]) htasks ?_
      rw [hw] at hstopped
      subst hstopped
      cases hreturned with
      | stopped hm => simpa [hw] using .destroyed hm
    | destroyed hm => exact absurd hstep (Step.not_of_halt hc rfl)
  | client i => exact absurd hstep (Step.not_of_halt (hclients i) rfl)
  | worker =>
    generalize hc : s.status .owner = c at h
    generalize hw : s.status .worker = w at h
    cases h with
    | destroy hsettling hm =>
      subst hw
      obtain ⟨hsettling', hsame, hothers⟩ := hsettling.step hm hstep
      refine .destroying (fun i => by rw [hothers _ (by simp), hclients]) (by rwa [hsame]) ?_
      rw [hothers _ (by simp), hc, hsame]
      exact .destroy hsettling' hm
    | calling h =>
      have hawake (u : Thread ι) (hu : u ≠ .owner) (hu' : u ≠ .worker) (m : Mutex) (next : Pc Task) :
          s.status u ≠ .asleep .caller m next := by
        cases u with
        | owner => exact absurd rfl hu
        | client j => simp [hclients]
        | worker => exact absurd rfl hu'
      obtain ⟨h', hrequested, hothers⟩ :=
        Calling.worker_step (t := .owner) (by simp) hawake (hc ▸ hw ▸ h) hholders hstep
      exact .destroying (fun i => by rw [hothers _ (by simp) (by simp), hclients])
        (by rwa [hrequested]) (.calling h')
    | join hreturned =>
      subst hw
      obtain ⟨hreturned', hsame, hothers⟩ := hreturned.step hstep
      refine .destroying (fun i => by rw [hothers _ (by simp), hclients]) (by rwa [hsame]) ?_
      rw [hothers _ (by simp), hc]
      exact .join hreturned'
    | destroyed hm => exact absurd hstep (Step.not_of_halt hw rfl)

/-- One step leads from phase to phase. -/
theorem Phase.step [Subsingleton ι] (h : Phase tasks s) (hholders : HoldersMatch holds s)
    (hstep : Step program (wakes False) t s s') : Phase tasks s' := by
  cases h with
  | creating hclients h => exact .step_creating hclients h hholders hstep
  | serving howner hclients hnobody htasks h =>
    exact .step_serving howner hclients hnobody htasks h hholders hstep
  | destroying hclients htasks h => exact .step_destroying hclients htasks h hholders hstep

omit [DecidableEq ι] in
/-- Before the constructor nobody holds a mutex. -/
theorem holdersMatch_initial : HoldersMatch holds (initial tasks) := by
  constructor
  · rintro m (_ | i | _) <;> simp [initial, held, holds, workerHolds]
  · rintro (_ | i | _) <;> trivial

/-- With one client at most, every reachable state is in a phase. -/
theorem phase_of_reachable [Subsingleton ι] (hs : Reachable program (wakes False) (initial tasks) s) :
    Phase tasks s ∧ HoldersMatch holds s := by
  refine hs.invariant (fun s => Phase tasks s ∧ HoldersMatch holds s) ?_ ⟨?_, holdersMatch_initial⟩
  · exact fun t s s' h hstep => ⟨h.1.step h.2 hstep, h.2.step disciplined hstep⟩
  · exact .creating (fun _ => rfl) .create

end Phases

section Progress

variable {s : System ι Task} {t : Thread ι}

/-- The thread can go on, and need not wake by itself for that. -/
def Enabled (t : Thread ι) (s : System ι Task) : Prop := ∃ s', Step program (fun _ => False) t s s'

/-- Everybody but one thread and the worker holds nothing, and does not sleep where the worker sleeps. -/
def Alone (t : Thread ι) (s : System ι Task) : Prop :=
  ∀ u, u ≠ t → u ≠ .worker → held holds (s.status u) = ∅ ∧ ∀ m next, s.status u ≠ .asleep .worker m next

omit [DecidableEq ι] in
/-- A mutex is free if neither the one thread nor the worker has it. -/
theorem Alone.free (h : Alone t s) (hholders : HoldersMatch holds s) {m : Mutex}
    (ht : m ∉ held holds (s.status t)) (hw : m ∉ held holds (s.status .worker)) : s.holder m = none := by
  refine hholders.free fun u => ?_
  by_cases hu : u = t
  · rwa [hu]
  · by_cases hu' : u = .worker
    · rwa [hu']
    · simp [(h u hu hu').1]

omit [DecidableEq ι] in
/-- A worker that is about to wait does not hold the mutex of the callers. -/
theorem Settling.caller_notMem {w : Place Task} (h : Settling w) : Mutex.caller ∉ held holds w := by
  cases h with
  | resting h => cases h <;> simp [held, holds, workerHolds]
  | _ => simp [held, holds, workerHolds]

omit [DecidableEq ι] in
/-- After a call the worker does not hold the mutex of the callers. -/
theorem Returned.caller_notMem {task : Option Task} {w : Place Task} {m : Memory Task}
    (h : Returned task w m) : Mutex.caller ∉ held holds w := by
  cases h with
  | settling h _ => exact h.caller_notMem
  | _ => simp [held, holds, workerHolds]

/-- A worker that is not at rest goes on. -/
theorem Settling.enabled (h : Settling (s.status .worker)) (hholders : HoldersMatch holds s) :
    Enabled .worker s ∨ Resting (s.status .worker) := by
  generalize hw : s.status .worker = w at h
  cases h with
  | loop => exact .inl ⟨_, .act hw rfl⟩
  | check => exact .inl ⟨_, .act hw rfl⟩
  | wait =>
    have hheld : s.holder .worker = some .worker :=
      (hholders.holder _ _).mpr (by simp [hw, held, holds, workerHolds])
    exact .inl ⟨_, .wait hw rfl hheld⟩
  | resting h => exact .inr h

/-- During a call the caller or the worker can go on. -/
theorem Calling.enabled {task : Option Task} {rest left : List Task} (halone : Alone t s)
    (h : Calling task rest left (s.status t) (s.status .worker) s.memory)
    (hholders : HoldersMatch holds s) : Enabled t s ∨ Enabled .worker s := by
  have hheld {m : Mutex} {u : Thread ι} (hm : m ∈ held holds (s.status u)) : s.holder m = some u :=
    (hholders.holder m u).mpr hm
  generalize hc : s.status t = c at h
  generalize hw : s.status .worker = w at h
  cases h with
  | lockWorker hsettling hm =>
    subst hw
    obtain henabled | hresting := hsettling.enabled hholders
    · exact .inr henabled
    · refine .inl ⟨_, .lock hc rfl (halone.free hholders (by simp [hc, held, holds, callHolds]) ?_)⟩
      generalize s.status .worker = w at hresting
      cases hresting <;> simp [held, holds, workerHolds]
  | write hresting hm => exact .inl ⟨_, .act hc rfl⟩
  | notify hresting hm =>
    cases hresting with
    | asleep => exact .inl ⟨_, .notify hc rfl hw⟩
    | woken =>
      refine .inl ⟨_, .notifyNobody hc rfl fun u m next => ?_⟩
      by_cases hu : u = t
      · simp [hu, hc]
      · by_cases hu' : u = .worker
        · simp [hu', hw]
        · exact (halone u hu hu').2 m next
  | unlockWorker hm =>
    exact .inl ⟨_, .unlock hc rfl (hheld (by simp [hc, held, holds, callHolds]))⟩
  | wait hworking => exact .inl ⟨_, .wait hc rfl (hheld (by simp [hc, held, holds, callHolds]))⟩
  | asleep hworking =>
    have hcaller (m : Mutex) : m ∉ held holds (s.status t) := by simp [hc, held, holds, callHolds]
    cases hworking with
    | woken hm =>
      exact .inr ⟨_, .relock hw (halone.free hholders (hcaller _) (by simp [hw, held, holds, workerHolds]))⟩
    | check hm => exact .inr ⟨_, .act hw rfl⟩
    | onTask hm => exact .inr ⟨_, .act hw rfl⟩
    | clear hm _ => exact .inr ⟨_, .act hw rfl⟩
    | lockDone hm hpending =>
      exact .inr ⟨_, .lock hw rfl
        (halone.free hholders (hcaller _) (by simp [hw, held, holds, workerHolds]))⟩
  | notifyDone hm hpending => exact .inr ⟨_, .notify hw rfl hc⟩
  | unlockDone hm hpending =>
    exact .inr ⟨_, .unlock hw rfl (hheld (by simp [hw, held, holds, workerHolds]))⟩
  | woken hreturned =>
    refine .inl ⟨_, .relock hc (halone.free hholders (by simp [hc, held, holds, callHolds]) ?_)⟩
    rw [hw]
    exact hreturned.caller_notMem
  | unlockCaller hreturned =>
    exact .inl ⟨_, .unlock hc rfl (hheld (by simp [hc, held, holds, callHolds]))⟩

/-- During the constructor the owner or the worker can go on. -/
theorem Creating.enabled (halone : Alone .owner s)
    (h : Creating (s.status .owner) (s.status .worker) s.memory) (hholders : HoldersMatch holds s) :
    Enabled .owner s ∨ Enabled .worker s := by
  have hheld {m : Mutex} {u : Thread ι} (hm : m ∈ held holds (s.status u)) : s.holder m = some u :=
    (hholders.holder m u).mpr hm
  generalize hc : s.status .owner = c at h
  generalize hw : s.status .worker = w at h
  generalize hmem : s.memory = m at h
  cases h with
  | create =>
    exact .inl ⟨_, .lock hc rfl (halone.free hholders (by simp [hc, held, holds])
      (by simp [hw, held, holds, workerHolds]))⟩
  | spawn => exact .inl ⟨_, .act hc rfl⟩
  | waitReady hstarting => exact .inl ⟨_, .wait hc rfl (hheld (by simp [hc, held, holds]))⟩
  | asleep hstarting =>
    have howner (m : Mutex) : m ∉ held holds (s.status .owner) := by simp [hc, held, holds]
    cases hstarting with
    | start => exact .inr ⟨_, .await hw rfl (by rw [hmem])⟩
    | lockWorker =>
      exact .inr ⟨_, .lock hw rfl
        (halone.free hholders (howner _) (by simp [hw, held, holds, workerHolds]))⟩
    | lockCaller =>
      exact .inr ⟨_, .lock hw rfl
        (halone.free hholders (howner _) (by simp [hw, held, holds, workerHolds]))⟩
  | notifyReady => exact .inr ⟨_, .notify hw rfl hc⟩
  | woken => exact .inr ⟨_, .unlock hw rfl (hheld (by simp [hw, held, holds, workerHolds]))⟩
  | settling hsettling =>
    exact .inl ⟨_, .relock hc (halone.free hholders (by simp [hc, held, holds])
      (by rw [hw]; exact hsettling.caller_notMem))⟩
  | unlockReady hsettling => exact .inl ⟨_, .unlock hc rfl (hheld (by simp [hc, held, holds]))⟩

/-- In every phase some thread can go on, or all have come to their end. -/
theorem Phase.finished_of_blocked [Subsingleton ι] {tasks : ι → List Task} (h : Phase tasks s)
    (hholders : HoldersMatch holds s) (hblocked : Blocked program (fun _ => False) s) :
    Finished program s ∧ Interleaves tasks s.memory.executed := by
  have hstuck (t : Thread ι) (henabled : Enabled t s) :
      Finished program s ∧ Interleaves tasks s.memory.executed :=
    absurd henabled fun ⟨s', hstep⟩ => hblocked t s' hstep
  have hquiet {v : Thread ι} {pc : Pc Task} (hv : s.status v = .running pc) (hpc : holds pc = ∅) :
      held holds (s.status v) = ∅ ∧ ∀ m next, s.status v ≠ .asleep .worker m next := by
    simp [hv, held, hpc]
  cases h with
  | creating hclients h =>
    have halone : Alone .owner s := by
      rintro (_ | i | _) hu hu'
      · exact absurd rfl hu
      · exact hquiet (hclients i) rfl
      · exact absurd rfl hu'
    exact (h.enabled halone hholders).elim (hstuck _) (hstuck _)
  | @serving left c howner hclients hnobody htasks h =>
    rcases isEmpty_or_nonempty ι with hempty | ⟨⟨i⟩⟩
    · exact hstuck .owner ⟨_, .await howner rfl fun i => hempty.elim i⟩
    · have halone : Alone (.client i) s := by
        rintro (_ | j | _) hu hu'
        · exact hquiet howner rfl
        · exact absurd (congrArg Thread.client (Subsingleton.elim j i)) hu
        · exact absurd rfl hu'
      have hc := hclients i
      subst hc
      generalize hc : s.status (.client i) = c at h
      cases h with
      | starting hsettling hm => exact hstuck (.client i) ⟨_, .await hc rfl howner⟩
      | between hsettling hm =>
        cases left with
        | nil =>
          refine hstuck .owner ⟨_, .await howner rfl fun j => ?_⟩
          rw [Subsingleton.elim j i, hc]
        | cons task rest =>
          exact hstuck (.client i) ⟨_, .lock hc rfl
            (halone.free hholders (by simp [hc, held, holds]) hsettling.caller_notMem)⟩
      | calling h => exact (Calling.enabled halone (hc ▸ h) hholders).elim (hstuck _) (hstuck _)
  | destroying hclients htasks h =>
    have halone : Alone .owner s := by
      rintro (_ | i | _) hu hu'
      · exact absurd rfl hu
      · exact hquiet (hclients i) rfl
      · exact absurd rfl hu'
    generalize hc : s.status .owner = c at h
    generalize hw : s.status .worker = w at h
    cases h with
    | destroy hsettling hm =>
      exact hstuck .owner ⟨_, .lock hc rfl
        (halone.free hholders (by simp [hc, held, holds]) (hw ▸ hsettling.caller_notMem))⟩
    | calling h => exact (Calling.enabled halone (hc ▸ hw ▸ h) hholders).elim (hstuck _) (hstuck _)
    | join hreturned =>
      cases hreturned with
      | loop hm => exact hstuck .worker ⟨_, .act hw rfl⟩
      | leave hm =>
        have hheld : s.holder .worker = some .worker :=
          (hholders.holder _ _).mpr (by simp [hw, held, holds, workerHolds])
        exact hstuck .worker ⟨_, .unlock hw rfl hheld⟩
      | stopped hm => exact hstuck .owner ⟨_, .await hc rfl hw⟩
    | destroyed hm =>
      refine ⟨?_, by rwa [hm.executed]⟩
      rintro (_ | i | _)
      · exact ⟨_, hc, rfl⟩
      · exact ⟨_, hclients i, rfl⟩
      · exact ⟨_, hw, rfl⟩

end Progress

section Weight

/-- The weight of the places in `PerformTask`. -/
def callWeight : CallPc → ℕ
  | .lockWorker => 19
  | .write => 18
  | .notify => 7
  | .unlockWorker => 3
  | .wait => 2
  | .unlockCaller => 3

/-- The weight of the worker's places; a pending task weighs more than the way from its end to rest. -/
def workerWeight : WorkerPc → ℕ
  | .start => 11
  | .lockWorker => 10
  | .lockCaller => 9
  | .notifyReady => 8
  | .unlockReady => 4
  | .loop => 3
  | .check => 2
  | .wait => 1
  | .onTask => 1
  | .clear => 0
  | .lockDone => 9
  | .notifyDone => 8
  | .unlockDone => 4
  | .leave => 1
  | .stopped => 0

/-- The weight of a control point: a call that is still to be made weighs twenty. -/
def weight : Pc Task → ℕ
  | .create => 25
  | .spawn => 24
  | .waitReady => 23
  | .unlockReady => 22
  | .owning => 21
  | .destroy => 20
  | .join => 1
  | .destroyed => 0
  | .starting todo => 20 * todo.length + 1
  | .between todo => 20 * todo.length
  | .calling pc _ rest => 20 * rest.length + callWeight pc
  | .worker pc => workerWeight pc

/-- A notification adds three at most. -/
def placeWeight : Place Task → ℕ
  | .running pc => weight pc
  | .asleep _ _ next => weight next - 2
  | .woken _ next => weight next + 1

def pendingWeight (m : Memory Task) : ℕ := if m.pendingCode then 10 else 0

omit [DecidableEq ι] in
/-- Every instruction lowers the weight: the pending flag pays for the answer. -/
theorem program_lowers (m : Memory Task) (pc : Pc Task)
    (hpending : pc = .worker .clear → m.pendingCode = true) :
    Lowers placeWeight pendingWeight m pc
      (program pc : Instr (Thread ι) Mutex Condition (Memory Task) (Pc Task)) := by
  have hnotify (now next : ℕ) (hlt : next + 3 < now) (mutex : Mutex) (next' : Pc Task) :
      placeWeight (.woken mutex next' : Place Task) + next <
        placeWeight (.asleep .caller mutex next' : Place Task) + now := by
    simp only [placeWeight]
    omega
  cases pc with
  | between todo => cases todo <;> simp [program, Lowers, placeWeight, weight, callWeight]; omega
  | calling pc task rest =>
    cases pc with
    | write =>
      have hsame : pendingWeight (m.request task) = 10 := rfl
      simp only [program, performTask, Lowers, placeWeight, weight, callWeight, hsame]
      omega
    | notify =>
      refine ⟨by simp [placeWeight, weight, callWeight], fun mutex next' => hnotify _ _ ?_ mutex next'⟩
      simp only [placeWeight, weight, callWeight]
      omega
    | unlockCaller => cases task <;> simp [program, performTask, Lowers, placeWeight, weight, callWeight]
    | _ => simp [program, performTask, Lowers, placeWeight, weight, callWeight]
  | worker pc =>
    cases pc with
    | notifyReady => exact ⟨Nat.lt_of_sub_eq_succ rfl, hnotify _ _ (Nat.lt_of_sub_eq_succ rfl)⟩
    | notifyDone => exact ⟨Nat.lt_of_sub_eq_succ rfl, hnotify _ _ (Nat.lt_of_sub_eq_succ rfl)⟩
    | loop =>
      cases hexit : m.workerThreadExit <;>
        simp [program, onThreadCallback, Lowers, placeWeight, weight, workerWeight, hexit]
    | check =>
      cases hpending : m.pendingCode <;>
        simp [program, onThreadCallback, Lowers, placeWeight, weight, workerWeight, hpending]
    | onTask =>
      have hsame : pendingWeight m.onTask = pendingWeight m := by
        simp only [pendingWeight, Memory.onTask]
        split <;> rfl
      simp [program, onThreadCallback, Lowers, placeWeight, weight, workerWeight, hsame]
    | clear =>
      simp [program, onThreadCallback, Lowers, placeWeight, weight, workerWeight, pendingWeight,
        hpending rfl]
    | _ => simp [program, onThreadCallback, Lowers, placeWeight, weight, workerWeight]
  | spawn => simp [program, Lowers, placeWeight, weight, pendingWeight]
  | _ => simp [program, Lowers, placeWeight, weight, callWeight]

end Weight

section Finish

variable {s : System ι Task} {tasks : ι → List Task}

omit [DecidableEq ι] in
/-- A worker on its way to sleep has no task to clear. -/
theorem Settling.ne_clear {w : Place Task} (h : Settling w) : w ≠ .running (.worker .clear) := by
  cases h with
  | resting h => cases h <;> simp
  | _ => simp

omit [DecidableEq ι] in
/-- After a call the worker has no task to clear. -/
theorem Returned.ne_clear {task : Option Task} {w : Place Task} {m : Memory Task}
    (h : Returned task w m) : w ≠ .running (.worker .clear) := by
  cases h with
  | settling h _ => exact h.ne_clear
  | _ => simp

omit [DecidableEq ι] in
/-- A worker that clears the task has one. -/
theorem Working.pending_of_clear {task : Option Task} {m : Memory Task}
    (h : Working task (.running (.worker .clear)) m) : m.pendingCode = true := by
  cases h with
  | clear _ hpending => exact hpending

omit [DecidableEq ι] in
/-- The same during a call. -/
theorem Calling.pending_of_clear {task : Option Task} {rest left : List Task} {c w : Place Task}
    {m : Memory Task} (h : Calling task rest left c w m) (hw : w = .running (.worker .clear)) :
    m.pendingCode = true := by
  cases h with
  | lockWorker hsettling _ => exact absurd hw hsettling.ne_clear
  | write hresting _ => exact absurd hw (Settling.resting hresting).ne_clear
  | notify hresting _ => exact absurd hw (Settling.resting hresting).ne_clear
  | wait hworking => exact (hw ▸ hworking).pending_of_clear
  | asleep hworking => exact (hw ▸ hworking).pending_of_clear
  | woken hreturned => exact absurd hw hreturned.ne_clear
  | unlockCaller hreturned => exact absurd hw hreturned.ne_clear
  | _ => simp at hw

omit [DecidableEq ι] in
/-- The flag that the worker clears is set. -/
theorem Phase.pending_of_clear (h : Phase tasks s) (hw : s.status .worker = .running (.worker .clear)) :
    s.memory.pendingCode = true := by
  cases h with
  | creating _ h =>
    rw [hw] at h
    generalize s.status .owner = c, s.memory = m at h
    cases h with
    | waitReady hstarting => cases hstarting
    | asleep hstarting => cases hstarting
    | settling hsettling => exact absurd rfl hsettling.ne_clear
    | unlockReady hsettling => exact absurd rfl hsettling.ne_clear
  | serving _ _ _ _ h =>
    cases h with
    | starting hsettling _ => exact absurd hw hsettling.ne_clear
    | between hsettling _ => exact absurd hw hsettling.ne_clear
    | calling h => exact h.pending_of_clear hw
  | destroying _ _ h =>
    generalize s.status .owner = c at h
    generalize hworker : s.status .worker = w at h hw
    cases h with
    | destroy hsettling _ => exact absurd hw hsettling.ne_clear
    | calling h => exact h.pending_of_clear hw
    | join hreturned => exact absurd hw hreturned.ne_clear
    | destroyed _ => simp at hw

omit [DecidableEq ι] in
/-- A caller is not at a point of the worker. -/
theorem Calling.caller_ne {task : Option Task} {rest left : List Task} {c w : Place Task}
    {m : Memory Task} (h : Calling task rest left c w m) (pc : WorkerPc) : c ≠ .running (.worker pc) := by
  cases h <;> simp

omit [DecidableEq ι] in
/-- Only the worker is at a place of the worker. -/
theorem Phase.eq_worker {t : Thread ι} {pc : WorkerPc} (h : Phase tasks s)
    (ht : s.status t = .running (.worker pc)) : t = .worker := by
  cases t with
  | worker => rfl
  | owner =>
    cases h with
    | creating _ h =>
      rw [ht] at h
      cases h
    | serving howner _ _ _ _ => simp [howner] at ht
    | destroying _ _ h =>
      rw [ht] at h
      cases h with
      | calling h => exact absurd rfl (h.caller_ne pc)
  | client i =>
    cases h with
    | creating hclients _ => simp [hclients i] at ht
    | serving _ hclients _ _ h =>
      obtain rfl := (hclients i).symm.trans ht
      cases h with
      | calling h => exact absurd rfl (h.caller_ne pc)
    | destroying hclients _ _ => simp [hclients i] at ht

omit [DecidableEq ι] in
/-- With finitely many clients there are finitely many threads. -/
theorem finite_thread [Finite ι] : Finite (Thread ι) := by
  refine Finite.of_injective (β := Option (Option ι))
    (fun | .owner => none | .worker => some none | .client i => some (some i)) ?_
  rintro (_ | i | _) (_ | j | _) <;> simp

/-- With one client at most, the system can finish from every reachable state. -/
theorem exists_finished [Subsingleton ι] (hs : Reachable program (wakes False) (initial tasks) s) :
    ∃ s', Reachable program (wakes False) s s' ∧ Finished program s' ∧
      Interleaves tasks s'.memory.executed := by
  have := finite_thread (ι := ι)
  have := Fintype.ofFinite (Thread ι)
  have hlower (t : Thread ι) (s s' : System ι Task) (h : Phase tasks s ∧ HoldersMatch holds s)
      (hstep : Step program (fun _ => False) t s s') : (Phase tasks s' ∧ HoldersMatch holds s') ∧
        load placeWeight pendingWeight s' < load placeWeight pendingWeight s := by
    refine ⟨⟨h.1.step h.2 hstep.of_notified, h.2.step disciplined hstep⟩, ?_⟩
    refine hstep.load_lt (fun pc hpc => program_lowers _ _ ?_) fun m next => Nat.lt_succ_self _
    rintro rfl
    exact h.1.pending_of_clear (h.1.eq_worker hpc ▸ hpc)
  obtain ⟨s', hreach, ⟨hphase, hholders⟩, hblocked⟩ :=
    exists_blocked _ _ hlower (phase_of_reachable hs)
  exact ⟨s', hreach.of_notified, hphase.finished_of_blocked hholders hblocked⟩

omit [DecidableEq ι] in
/-- After a call everything that was asked for is done. -/
theorem Returned.executed {task : Option Task} {w : Place Task} {m : Memory Task}
    (h : Returned task w m) : m.executed = m.requested := by
  cases h with
  | settling _ hm => exact hm.executed
  | loop hm => exact hm.executed
  | leave hm => exact hm.executed
  | stopped hm => exact hm.executed

omit [DecidableEq ι] in
/-- At most the task of the call is still to be done. -/
theorem Working.requested {task : Option Task} {w : Place Task} {m : Memory Task} (h : Working task w m) :
    m.requested = m.executed ∨ m.requested = m.executed ++ task.toList := by
  cases h with
  | woken hm => exact .inr hm.requested
  | check hm => exact .inr hm.requested
  | onTask hm => exact .inr hm.requested
  | clear hm _ => exact .inl hm.executed.symm
  | lockDone hm _ => exact .inl hm.executed.symm

omit [DecidableEq ι] in
/-- During a call everything is done, or everything but the task of the call. -/
theorem Calling.requested {task : Option Task} {rest left : List Task} {c w : Place Task}
    {m : Memory Task} (h : Calling task rest left c w m) :
    m.requested = m.executed ∨ m.requested = m.executed ++ task.toList := by
  cases h with
  | lockWorker _ hm => exact .inl hm.executed.symm
  | write _ hm => exact .inl hm.executed.symm
  | notify _ hm => exact .inr hm.requested
  | unlockWorker hm => exact .inr hm.requested
  | wait hworking => exact hworking.requested
  | asleep hworking => exact hworking.requested
  | notifyDone hm _ => exact .inl hm.executed.symm
  | unlockDone hm _ => exact .inl hm.executed.symm
  | woken hreturned => exact .inl hreturned.executed.symm
  | unlockCaller hreturned => exact .inl hreturned.executed.symm

omit [DecidableEq ι] in
/-- During the destructor everything that was asked for is done. -/
theorem Destroying.executed {c w : Place Task} {m : Memory Task} (h : Destroying c w m) :
    m.executed = m.requested := by
  cases h with
  | destroy _ hm => exact hm.executed
  | calling h => simpa [eq_comm] using h.requested
  | join hreturned => exact hreturned.executed
  | destroyed hm => exact hm.executed

omit [DecidableEq ι] in
/-- At the end the clients have no calls left. -/
theorem Phase.between_of_finished (h : Phase tasks s) (hfinished : Finished program s) (i : ι) :
    s.status (.client i) = .running (.between []) := by
  cases h with
  | creating hclients _ =>
    obtain ⟨pc, hpc, hhalt⟩ := hfinished (.client i)
    obtain rfl := Status.running.inj ((hclients i).symm.trans hpc)
    simp [program] at hhalt
  | serving howner _ _ _ _ =>
    obtain ⟨pc, hpc, hhalt⟩ := hfinished .owner
    obtain rfl := Status.running.inj (howner.symm.trans hpc)
    simp [program] at hhalt
  | destroying hclients _ _ => exact hclients i

/-- With one client at most the tasks are done once each and in their order, and a call returns when its
task is done. -/
theorem executed_of_reachable [Subsingleton ι] (i : ι)
    (hs : Reachable program (wakes False) (initial tasks) s) :
    s.memory.executed <+: tasks i ∧
      ∀ todo, s.status (.client i) = .running (.between todo) → s.memory.executed ++ todo = tasks i := by
  cases (phase_of_reachable hs).1 with
  | creating hclients h =>
    have hnothing : s.memory.executed = [] := by
      generalize s.status .owner = c, s.status .worker = w, s.memory = m at h
      cases h <;> rfl
    exact ⟨by simp [hnothing], by simp [hclients i]⟩
  | @serving left c howner hclients hnobody htasks h =>
    rw [hclients i, ← htasks.eq i]
    cases h with
    | starting _ hm => exact ⟨by simp [hm.executed], by simp⟩
    | between _ hm => exact ⟨by simp [hm.executed], by simp [hm.executed]⟩
    | calling h =>
      refine ⟨?_, fun todo hbetween => by cases hbetween; cases h⟩
      obtain hsame | hmore := h.requested
      · simp [hsame]
      · simp [hmore]
  | destroying hclients htasks h =>
    rw [hclients i, ← htasks.eq i, h.executed]
    exact ⟨List.prefix_rfl, by simp⟩

/-- One client with two tasks at the end: both are done, and no call is left. -/
theorem executed_at_end : ∃ s, Reachable program (wakes False) (initial fun _ : Unit => [true, false]) s ∧
    Finished program s ∧ s.status (.client ()) = .running (.between []) ∧
    s.memory.executed <+: [true, false] ∧ s.memory.executed ++ [] = [true, false] := by
  obtain ⟨s, hs, hfinished, -⟩ :=
    exists_finished (Relation.ReflTransGen.refl (a := initial fun _ : Unit => [true, false]))
  have hbetween := (phase_of_reachable hs).1.between_of_finished hfinished ()
  obtain ⟨hbegins, hreturned⟩ := executed_of_reachable () hs
  exact ⟨s, hs, hfinished, hbetween, hbegins, hreturned [] hbetween⟩

end Finish

end Yoshino.Display.SyncTask
