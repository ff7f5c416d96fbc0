import Yoshino.Customization.Frame
import Yoshino.Customization.ModemImages

/-!
# The phone does not ask for a reboot forever

Every path that sets a configuration, or finds that none is needed, leaves the key of the current
SIM and software in the preferences. As long as that key string stays the same and nobody clears
the preference, nothing is set a second time and no configurator finds a new configuration.
-/

namespace Yoshino.Customization

open Yoshino.Library

/-- Whether a step calls `saveConfigurationKey` outside of `set`. -/
def System.saving (s : System) : Event → Bool
  | .workerStep =>
    match s.worker with
    | .unneeded _ => true
    | _ => false
  | .mainStep =>
    match s.main with
    | .suwUnneeded _ => true
    | _ => false
  | _ => false

/-- Whether a step calls `set` and `set` goes on to its writes. -/
def System.performsSet (s : System) (e : Event) : Bool :=
  (s.setting e).isSome && anythingChangedSinceLastEvaluation s.device

/-- The step neither changes the current key string nor clears the stored key. -/
def System.KeepsKey (s : System) (e : Event) : Prop :=
  createCurrentConfigurationKey (s.step e).device = createCurrentConfigurationKey s.device ∧
    s.clearsKey e = false

instance (s : System) (e : Event) : Decidable (s.KeepsKey e) :=
  inferInstanceAs (Decidable (_ ∧ _))

/-- The stored key is the one of the current SIM and software. -/
def System.UpToDate (s : System) : Prop :=
  anythingChangedSinceLastEvaluation s.device = false

/-- A step stores a key exactly when it saves it or performs a `set`. -/
theorem System.storing_isSome (s : System) (e : Event) :
    (s.storing e).isSome = (s.saving e || s.performsSet e) := by
  cases e with
  | workerStep =>
    rcases hworker : s.worker with _ | _ | _ | _ <;>
      simp [storing, saving, performsSet, setting, hworker]
  | mainStep =>
    rcases hmain : s.main with _ | _ | _ | _ | _ <;>
      simp [storing, saving, performsSet, setting, hmain]
    split <;> simp_all
  | homeClick dialog =>
    rcases hmain : s.main with _ | _ | _ | _ | _ <;> cases hdialog : s.dialogs[dialog]? <;>
      simp [storing, saving, performsSet, setting, hmain, hdialog]
    split <;> simp_all
  | _ => rfl

/-- A step that keeps the key string leaves an up-to-date key up to date, and brings it up to date
when it saves the key or calls `set`. -/
theorem System.step_upToDate (s : System) (e : Event) (hkeeps : s.KeepsKey e)
    (h : s.UpToDate ∨ s.saving e = true ∨ (s.setting e).isSome = true) : (s.step e).UpToDate := by
  have hstored := s.step_configKey e
  rw [hkeeps.2] at hstored
  unfold UpToDate anythingChangedSinceLastEvaluation
  rw [hkeeps.1, hstored, s.storing_isSome e]
  cases hchanged : anythingChangedSinceLastEvaluation s.device with
  | false =>
    -- the key was up to date before: storing it again changes nothing
    have hkey : createCurrentConfigurationKey s.device = s.device.configKey.getD "" := by
      simpa [anythingChangedSinceLastEvaluation] using hchanged
    split
    · simp
    · simp [hkey]
  | true =>
    have hstores : (s.saving e || s.performsSet e) = true := by
      rcases h with h | h | h
      · rw [UpToDate, hchanged] at h
        simp at h
      · simp [h]
      · simp [performsSet, h, hchanged]
    simp [hstores]

/-- No configurator finds a new configuration while the key is up to date. -/
theorem System.UpToDate.not_needed {s : System} (h : s.UpToDate) (c : Configurator) :
    (c.isNewConfigurationNeeded s.device).2.2 = false := by
  unfold UpToDate at h
  simp [Configurator.isNewConfigurationNeeded, h]

/-- While the key string stays the same and the stored key is not cleared, across any number of
reboots, at most one `set` performs its writes, and after any `set` or `saveConfigurationKey` no
configurator finds a new configuration. -/
theorem System.no_reboot_loop (s : System) (events : List Event)
    (hkeeps : StepsMeet System.step System.KeepsKey s events) :
    stepCount System.step System.performsSet s events ≤ 1 ∧
      ∀ (before after : List Event) (e : Event), events = before ++ e :: after →
        ((run System.step s before).saving e = true ∨
          ((run System.step s before).setting e).isSome = true) →
        ∀ c : Configurator,
          (c.isNewConfigurationNeeded (run System.step s events).device).2.2 = false := by
  constructor
  · refine stepCount_le_one UpToDate (fun s e hs hkeeps => s.step_upToDate e hkeeps (Or.inl hs))
      ?_ ?_ s events hkeeps
    · intro s e hs
      unfold UpToDate at hs
      simp [performsSet, hs]
    · intro s e hkeeps hperforms
      have hset : (s.setting e).isSome = true := by
        simp only [performsSet, Bool.and_eq_true] at hperforms
        exact hperforms.1
      exact s.step_upToDate e hkeeps (Or.inr (Or.inr hset))
  · rintro before after e rfl hcall c
    obtain ⟨-, hkeepsE, hkeepsAfter⟩ := (stepsMeet_append s before (e :: after)).mp hkeeps
    have hupToDate := System.step_upToDate _ e hkeepsE (Or.inr hcall)
    rw [run_append, run_cons]
    exact (run_invariant UpToDate (fun s e hs hkeeps => s.step_upToDate e hkeeps (Or.inl hs))
      _ after hupToDate hkeepsAfter).not_needed c

/-- The setup wizard sets a modem once; the phone reboots into the same software and no
configurator finds anything to do. -/
theorem System.no_reboot_loop_after_wizard :
    let events := [.suwHandle, .mainStep, .mainStep,
      .reboot Device.plainModem.platform Device.plainModem.status Device.plainModem.versions
        fun _ => []]
    stepCount System.step System.performsSet (fresh .plainModem) events ≤ 1 ∧
      ∀ c : Configurator,
        (c.isNewConfigurationNeeded (run System.step (fresh .plainModem) events).device).2.2 =
          false := by
  intro events
  have h := no_reboot_loop (fresh .plainModem) events (by decide +kernel)
  exact ⟨h.1, h.2 [.suwHandle, .mainStep] _ .mainStep rfl (Or.inr (by decide +kernel))⟩

end Yoshino.Customization
