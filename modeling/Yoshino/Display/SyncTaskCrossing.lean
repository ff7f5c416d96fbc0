import Yoshino.Display.SyncTaskDone

/-!
# Callers and worker in each other's way

The worker holds its mutex while it signals under that of the callers, and a caller takes them the other
way round. Only one caller that sleeps until the signal keeps them apart: after the constructor wakes by
itself, or when a second client enters while the first one sleeps, each side can hold what the other needs.
-/

namespace Yoshino.Display.SyncTask

open Yoshino.Library.Threads

variable {ι Task : Type} [DecidableEq ι] {tasks : ι → List Task} {callers : Prop}

/-- The object after its constructor, with the worker at rest. -/
def constructed (tasks : ι → List Task) : System ι Task where
  memory := { spawned := true }
  holder _ := none
  status
    | .owner => .running .owning
    | .client i => .running (.starting (tasks i))
    | .worker => .asleep .worker .worker (.worker .check)

/-- The object after a constructor that did not sleep until the worker's signal. -/
def abandoned (tasks : ι → List Task) : System ι Task where
  memory := { spawned := true }
  holder
    | .caller => none
    | .worker => some .worker
  status
    | .owner => .running .owning
    | .client i => .running (.starting (tasks i))
    | .worker => .running (.worker .lockCaller)

omit [DecidableEq ι] in
/-- States with the same members, holders and places. -/
theorem system_ext {s s' : System ι Task} (hmemory : s.memory = s'.memory)
    (hholder : ∀ m, s.holder m = s'.holder m) (hstatus : ∀ t, s.status t = s'.status t) : s = s' := by
  cases s
  cases s'
  simp_all [funext_iff]

/-- The constructor ends with the worker asleep. -/
theorem reachable_constructed : Reachable program (wakes callers) (initial tasks) (constructed tasks) := by
  have h : Reachable program (wakes callers) (initial tasks) (initial tasks) := .refl
  have h := h.step (.lock (t := .owner) rfl rfl rfl)
  have h := h.step (.act (t := .owner) rfl rfl)
  have h := h.step (.wait (t := .owner) rfl rfl rfl)
  have h := h.step (.await (t := .worker) rfl rfl (by rfl))
  have h := h.step (.lock (t := .worker) rfl rfl rfl)
  have h := h.step (.lock (t := .worker) rfl rfl rfl)
  have h := h.step (.notify (t := .worker) (u := .owner) rfl rfl rfl)
  have h := h.step (.unlock (t := .worker) rfl rfl rfl)
  have h := h.step (.act (t := .worker) rfl rfl)
  have h := h.step (.act (t := .worker) rfl rfl)
  have h := h.step (.wait (t := .worker) rfl rfl rfl)
  have h := h.step (.relock (t := .owner) rfl rfl)
  have h := h.step (.unlock (t := .owner) rfl rfl rfl)
  convert h using 1
  refine system_ext rfl ?_ ?_
  · rintro (_ | _) <;> rfl
  · rintro (_ | i | _) <;> rfl

/-- A constructor that wakes by itself leaves the worker behind. -/
theorem reachable_abandoned (hcallers : callers) :
    Reachable program (wakes callers) (initial tasks) (abandoned tasks) := by
  have h : Reachable program (wakes callers) (initial tasks) (initial tasks) := .refl
  have h := h.step (.lock (t := .owner) rfl rfl rfl)
  have h := h.step (.act (t := .owner) rfl rfl)
  have h := h.step (.wait (t := .owner) rfl rfl rfl)
  have h := h.step (.spurious (t := .owner) rfl (show wakes callers .caller from hcallers))
  have h := h.step (.relock (t := .owner) rfl rfl)
  have h := h.step (.unlock (t := .owner) rfl rfl rfl)
  have h := h.step (.await (t := .worker) rfl rfl (by rfl))
  have h := h.step (.lock (t := .worker) rfl rfl rfl)
  convert h using 1
  refine system_ext rfl ?_ ?_
  · rintro (_ | _) <;> rfl
  · rintro (_ | i | _) <;> rfl

/-- The first call after that, or else the destructor, and the worker wait for each other. -/
theorem crossed_of_abandoned (htasks : ∀ i, tasks i ≠ []) :
    ∃ s t, Reachable program (wakes callers) (abandoned tasks) s ∧ Crossed program .worker t s := by
  have h : Reachable program (wakes callers) (abandoned tasks) (abandoned tasks) := .refl
  rcases isEmpty_or_nonempty ι with hempty | ⟨⟨i⟩⟩
  · have h := h.step (.await (t := .owner) rfl rfl fun i => hempty.elim i)
    have h := h.step (.lock (t := .owner) rfl rfl rfl)
    exact ⟨_, .owner, h, ⟨_, _, _, rfl, rfl, rfl⟩, ⟨_, _, _, rfl, rfl, rfl⟩⟩
  · obtain ⟨task, rest, hi⟩ := List.exists_cons_of_ne_nil (htasks i)
    have hstart : (abandoned tasks).status (.client i) = .running (.starting (task :: rest)) := by
      rw [← hi]
      rfl
    have h := h.step (.await (t := .client i) hstart rfl (by rfl))
    have h := h.step (.lock (t := .client i) (State.status_goto_self ..) rfl rfl)
    exact ⟨_, .client i, h, ⟨_, _, _, rfl, rfl, rfl⟩, ⟨_, _, _, State.status_goto_self .., rfl, rfl⟩⟩

/-- A second client that enters while the first one sleeps waits for the worker, and the worker for it. -/
theorem crossed_of_constructed {i j : ι} (hij : i ≠ j) (htasks : ∀ i, tasks i ≠ []) :
    ∃ s, Reachable program (wakes callers) (constructed tasks) s ∧
      Crossed program .worker (.client j) s := by
  obtain ⟨task, rest, hi⟩ := List.exists_cons_of_ne_nil (htasks i)
  obtain ⟨task', rest', hj⟩ := List.exists_cons_of_ne_nil (htasks j)
  have hstart : (constructed tasks).status (.client i) = .running (.starting (task :: rest)) := by
    rw [← hi]
    rfl
  have h : Reachable program (wakes callers) (constructed tasks) (constructed tasks) := .refl
  -- The first client hands its task over and sleeps.
  have h := h.step (.await (t := .client i) hstart rfl (by rfl))
  have h := h.step (.lock (t := .client i) (State.status_goto_self ..) rfl rfl)
  have h := h.step (.lock (t := .client i) (State.status_goto_self ..) rfl rfl)
  have h := h.step (.act (t := .client i) (State.status_goto_self ..) rfl)
  have h := h.step (.notify (t := .client i) (u := .worker) (State.status_goto_self ..) rfl rfl)
  have h := h.step (.unlock (t := .client i) (State.status_goto_self ..) rfl rfl)
  have h := h.step (.wait (t := .client i) (State.status_goto_self ..) rfl rfl)
  -- The worker runs the task with its mutex held.
  have h := h.step (.relock (t := .worker) rfl rfl)
  have h := h.step (.act (t := .worker) rfl rfl)
  have h := h.step (.act (t := .worker) rfl rfl)
  have h := h.step (.act (t := .worker) rfl rfl)
  -- The second client finds the callers' mutex free.
  have hstart' : ∀ s : System ι Task, s.status (.client j) = (constructed tasks).status (.client j) →
      s.status (.client j) = .running (.starting (task' :: rest')) := by
    intro s hs
    rw [hs, ← hj]
    rfl
  have h := h.step (.await (t := .client j) (hstart' _ (by simp [hij.symm])) rfl (by rfl))
  have h := h.step (.lock (t := .client j) (State.status_goto_self ..) rfl rfl)
  exact ⟨_, h, ⟨_, _, _, rfl, rfl, rfl⟩, ⟨_, _, _, State.status_goto_self .., rfl, rfl⟩⟩

/-- With a second client, or with callers that wake by themselves, the worker and a caller can come to wait
for each other. -/
theorem exists_crossed (htasks : ∀ i, tasks i ≠ []) (hmany : ¬ (Subsingleton ι ∧ ¬ callers)) :
    ∃ s t, Reachable program (wakes callers) (initial tasks) s ∧ Crossed program .worker t s := by
  by_cases hcallers : callers
  · obtain ⟨s, t, hs, hcrossed⟩ := crossed_of_abandoned htasks
    exact ⟨s, t, (reachable_abandoned hcallers).trans hs, hcrossed⟩
  · have hone : ¬ Subsingleton ι := fun hone => hmany ⟨hone, hcallers⟩
    obtain ⟨i, j, hij⟩ := (not_subsingleton_iff_nontrivial.mp hone).exists_pair_ne
    obtain ⟨s, hs, hcrossed⟩ := crossed_of_constructed hij htasks
    exact ⟨s, .client j, reachable_constructed.trans hs, hcrossed⟩

/-- Let every client have a task. The system can finish from every reachable state, with the tasks of all
clients done and those of each in their order, if and only if there is one client at most and callers do
not wake by themselves. Otherwise a state can be reached from which on the worker and a caller each wait
for a mutex that the other one holds, whatever else happens. -/
theorem finishes_iff (htasks : ∀ i, tasks i ≠ []) :
    ((∀ s, Reachable program (wakes callers) (initial tasks) s → ∃ s', Reachable program (wakes callers) s s' ∧
        Finished program s' ∧ Interleaves tasks s'.memory.executed) ↔ Subsingleton ι ∧ ¬ callers) ∧
      (¬ (Subsingleton ι ∧ ¬ callers) → ∃ s t, Reachable program (wakes callers) (initial tasks) s ∧
        ∀ s', Reachable program (wakes callers) s s' →
          Crossed program .worker t s' ∧ ¬ Finished program s') := by
  refine ⟨⟨fun hfinishes => ?_, ?_⟩, fun hmany => ?_⟩
  · by_contra hmany
    obtain ⟨s, t, hs, hcrossed⟩ := exists_crossed htasks hmany
    obtain ⟨s', hs', hfinished, -⟩ := hfinishes s hs
    exact hcrossed.not_finished hs' hfinished
  · rintro ⟨hone, hcallers⟩ s hs
    rw [eq_false hcallers] at hs ⊢
    exact exists_finished hs
  · obtain ⟨s, t, hs, hcrossed⟩ := exists_crossed htasks hmany
    refine ⟨s, t, hs, fun s' hs' => ⟨?_, hcrossed.not_finished hs'⟩⟩
    exact hs'.invariant (Crossed program .worker t) (fun _ _ _ h hstep => h.step hstep) hcrossed

/-- One client with one task and callers that sleep until they are notified come to their end; two clients
with a task each may block the worker. -/
theorem finishes_one_client :
    (∃ s, Reachable program (wakes False) (initial fun _ : Unit => [()]) s ∧ Finished program s ∧
      s.memory.executed = [()]) ∧
      ∃ s t, Reachable program (wakes False) (initial fun _ : Bool => [()]) s ∧
        Crossed program .worker t s ∧ ¬ Finished program s := by
  constructor
  · obtain ⟨s, hs, hfinished, hexecuted⟩ :=
      (finishes_iff (ι := Unit) fun _ => List.cons_ne_nil () []).1.mpr ⟨inferInstance, not_false⟩ _ .refl
    exact ⟨s, hs, hfinished, hexecuted.eq ()⟩
  · have hmany : ¬ (Subsingleton Bool ∧ ¬ False) := fun h => absurd (h.1.elim true false) (by decide)
    obtain ⟨s, t, hs, hstays⟩ :=
      (finishes_iff (ι := Bool) fun _ => List.cons_ne_nil () []).2 hmany
    exact ⟨s, t, hs, hstays s .refl⟩

end Yoshino.Display.SyncTask
