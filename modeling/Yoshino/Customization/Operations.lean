import Yoshino.Customization.Frame

/-!
# The operations under way

An operation carries the bundle of the SIM it was built for and, once it has decided, the image and
the carrier configuration found for that bundle. The installed software and the status file only
change at a reboot, which ends every operation; so what an operation has found stays the answer of
the evaluation in every later state.
-/

namespace Yoshino.Customization

/-- What only a reboot changes. -/
def Device.installed (d : Device) : Platform × StatusFile × Versions :=
  (d.platform, d.status, d.versions)

/-- The operation the worker is in the middle of. -/
def Worker.operations : Worker → List Operation
  | .built op | .unneeded op => [op]
  | .idle | .saved => []

/-- The operation the main thread is in the middle of. -/
def Main.operations : Main → List Operation
  | .homeBuilt op | .suwBuilt op | .suwNeeded op | .suwUnneeded op => [op]
  | .idle => []

/-- The operations under way. -/
def System.operations (s : System) : List Operation :=
  s.worker.operations ++ s.main.operations ++ s.dialogs

/-- An operation is under way on the worker, on the main thread or behind a dialog. -/
theorem System.mem_operations (s : System) (op : Operation) :
    op ∈ s.operations ↔
      op ∈ s.worker.operations ∨ op ∈ s.main.operations ∨ op ∈ s.dialogs := by
  rw [operations, List.mem_append, List.mem_append, or_assoc]

/-- The operation has found what the evaluation of the bundle finds that was read for the SIM it was built
with. -/
def Operation.Found (op : Operation) : Prop :=
  ∃ bundle, getCarrierBundle op.builtIn = some bundle ∧
    op.configurator = ({ mBundle := some bundle } : Configurator).evaluate op.builtIn

/-- An operation holds the bundle it was built from and what its evaluation finds for it. -/
structure Operation.Sound (d : Device) (op : Operation) : Prop where
  installed : op.builtIn.installed = d.installed
  read : (getCarrierBundle op.builtIn).isSome = true
  bundle : op.configurator.mBundle = getCarrierBundle op.builtIn
  found : op.evaluated = true → op.Found
  modem : op.configurator.mModem = "" ∨ ∃ bundle, op.configurator.mBundle = some bundle ∧
    op.configurator.mModem = getModemConfigurationNeeded d bundle.modem
  configId : op.configurator.mConfigId = none ∨ ∃ bundle, op.configurator.mBundle = some bundle ∧
    op.configurator.mConfigId = evaluateCarrierConfigId d bundle.configId

/-- Every operation under way is sound. -/
def System.Sound (s : System) : Prop :=
  ∀ op ∈ s.operations, op.Sound s.device

/-- Which image is needed depends on the installed software and the status file only. -/
theorem getModemConfigurationNeeded_congr {d d' : Device} (h : d'.installed = d.installed)
    (variant : String) :
    getModemConfigurationNeeded d' variant = getModemConfigurationNeeded d variant := by
  simp only [Device.installed, Prod.mk.injEq] at h
  have himage : getModemConfiguration d' variant = getModemConfiguration d variant := by
    rw [getModemConfiguration, getModemConfiguration, h.1]
  unfold getModemConfigurationNeeded
  rw [getCurrentModemConfig_congr h.1 h.2.1, h.1, himage]

/-- What an evaluation finds depends on the installed software and the status file only. -/
theorem Configurator.evaluate_congr {d d' : Device} (h : d'.installed = d.installed) (c : Configurator) :
    c.evaluate d' = c.evaluate d := by
  have hversions : d'.versions = d.versions := congrArg (·.2.2) h
  unfold evaluate
  cases c.mBundle with
  | none => rfl
  | some bundle =>
    simp only [getModemConfigurationNeeded_congr h, evaluateCarrierConfigId, hversions]

/-- An evaluation looks at the bundle only, not at what was found before. -/
theorem Configurator.evaluate_of_bundle {c : Configurator} {bundle : Bundle}
    (h : c.mBundle = some bundle) (d : Device) :
    c.evaluate d = ({ mBundle := some bundle } : Configurator).evaluate d := by
  simp only [evaluate, h]

/-- Soundness is kept as long as nothing is installed. -/
theorem Operation.Sound.congr {d d' : Device} {op : Operation} (h : op.Sound d)
    (hinstalled : d'.installed = d.installed) : op.Sound d' := by
  refine ⟨h.installed.trans hinstalled.symm, h.read, h.bundle, h.found, ?_, ?_⟩
  · simpa only [getModemConfigurationNeeded_congr hinstalled] using h.modem
  · have hversions : d'.versions = d.versions := congrArg (·.2.2) hinstalled
    simpa only [evaluateCarrierConfigId, hversions] using h.configId

/-- An operation is sound when it is built. -/
theorem Device.buildOperation_sound {d : Device} {op : Operation}
    (h : d.buildOperation = some op) : op.Sound d := by
  unfold buildOperation at h
  obtain ⟨bundle, hbundle, rfl⟩ := Option.map_eq_some_iff.mp h
  exact ⟨rfl, by simp [hbundle], hbundle.symm, fun h => absurd h Bool.false_ne_true, Or.inl rfl, Or.inl rfl⟩

/-- Deciding keeps an operation sound. -/
theorem Operation.Sound.decided {d : Device} {op : Operation} (h : op.Sound d) :
    (op.decided d).Sound d := by
  unfold Operation.decided Configurator.isNewConfigurationNeeded
  split
  next hchanged =>
    obtain ⟨bundle, hread⟩ := Option.isSome_iff_exists.mp h.read
    have hbundle : op.configurator.mBundle = some bundle := h.bundle.trans hread
    have hfound : op.configurator.evaluate d =
        ({ mBundle := some bundle } : Configurator).evaluate op.builtIn := by
      rw [Configurator.evaluate_of_bundle hbundle, Configurator.evaluate_congr h.installed]
    refine ⟨h.installed, h.read, ?_, fun _ => ⟨bundle, hread, hfound⟩, ?_, ?_⟩
    · simp only [Configurator.evaluate, hbundle]
      exact hread.symm
    · simp only [Configurator.evaluate, hbundle]
      exact Or.inr ⟨bundle, rfl, rfl⟩
    · simp only [Configurator.evaluate, hbundle]
      exact Or.inr ⟨bundle, rfl, rfl⟩
  next hchanged =>
    exact ⟨h.installed, h.read, h.bundle, fun hevaluated => absurd hevaluated hchanged, h.modem,
      h.configId⟩

/-- Nothing is installed between two reboots. -/
theorem System.step_installed (s : System) (e : Event) (hboot : e.isReboot = false) :
    (s.step e).device.installed = s.device.installed := by
  have h := congrArg Device.installed (s.step_frame e).1
  change (s.step e).device.installed = (s.frameAfter e).installed at h
  rw [h]
  cases e with
  | telephonyChanged | csImsChanged | csReApplyModemChanged | userUnlocked => rfl
  | reboot => simp [Event.isReboot] at hboot
  | _ =>
    simp only [frameAfter]
    split
    · rfl
    · split <;> rfl

/-- The operations of an undisturbed system stay or end. -/
theorem System.Undisturbed.operations {s s' : System} (h : s.Undisturbed s') :
    s'.operations = s.operations ∨ s'.operations = [] := by
  simp only [Undisturbed, underway, Prod.mk.injEq] at h
  rcases h with ⟨hworker, hmain, hdialogs, -⟩ | ⟨hworker, hmain, hdialogs, -⟩
  · exact Or.inl (by rw [System.operations, System.operations, hworker, hmain, hdialogs])
  · exact Or.inr (by rw [System.operations, hworker, hmain, hdialogs]; rfl)

/-- Where the operations under way after a step come from: they were under way, have just been
built, or have just decided. -/
def System.Origin (s : System) (op : Operation) : Prop :=
  op ∈ s.operations ∨ s.device.buildOperation = some op ∨
    ∃ old ∈ s.operations, op = old.decided s.device

/-- What an undisturbed system has under way was under way before. -/
theorem System.Undisturbed.origin {s s' : System} (h : s.Undisturbed s') {op : Operation}
    (hop : op ∈ s'.operations) : s.Origin op := by
  rcases h.operations with hsame | hnone
  · exact Or.inl (hsame ▸ hop)
  · rw [hnone] at hop
    exact absurd hop List.not_mem_nil

/-- The operations under way after the worker's next step. -/
theorem System.workerStep_origin (s : System) {op : Operation} (h : op ∈ s.workerStep.operations) :
    s.Origin op := by
  -- an operation that is not the worker's own was under way before
  have hother (s' : System) (h : op ∈ s'.operations) (hworker : s'.worker.operations = [])
      (hmain : s'.main = s.main) (hdialogs : s'.dialogs = s.dialogs) : s.Origin op := by
    rw [mem_operations, hworker, hmain, hdialogs] at h
    exact Or.inl ((s.mem_operations op).mpr (Or.inr (h.resolve_left List.not_mem_nil)))
  rcases hworker : s.worker with _ | old | old | _ <;>
    simp only [workerStep, hworker, decide_eq] at h
  · exact Or.inl h
  · have hold : old ∈ s.operations := by simp [operations, hworker, Worker.operations]
    generalize (old.configurator.isNewConfigurationNeeded s.device).2.2 = needed at h
    cases needed with
    | true => exact hother _ h rfl rfl rfl
    | false =>
      rcases (mem_operations _ op).mp h with h | h
      · exact Or.inr (Or.inr ⟨old, hold, List.mem_singleton.mp h⟩)
      · exact Or.inl ((s.mem_operations op).mpr (Or.inr h))
  · exact hother _ h rfl rfl rfl
  · exact hother _ h rfl rfl rfl

/-- The operations under way after the main thread's next step. -/
theorem System.mainStep_origin (s : System) {op : Operation} (h : op ∈ s.mainStep.operations) :
    s.Origin op := by
  -- an operation that is not the main thread's own was under way before
  have hother (h : op ∈ s.worker.operations ∨ op ∈ s.dialogs) : s.Origin op :=
    Or.inl ((s.mem_operations op).mpr (h.imp_right Or.inr))
  have hidle (s' : System) (h : op ∈ s'.operations) (hworker : s'.worker = s.worker)
      (hmain : s'.main = .idle) (hdialogs : s'.dialogs = s.dialogs) : s.Origin op := by
    rw [mem_operations, hworker, hmain, hdialogs] at h
    exact hother (h.imp_right fun h => h.resolve_left List.not_mem_nil)
  have hdecided (old : Operation) (hmain : old ∈ s.main.operations)
      (h : op = old.decided s.device) : s.Origin op :=
    Or.inr (Or.inr ⟨old, (s.mem_operations old).mpr (Or.inr (Or.inl hmain)), h⟩)
  rcases hmain : s.main with _ | old | old | old | old <;>
    simp only [mainStep, hmain, decide_eq] at h
  · exact Or.inl h
  · generalize (old.configurator.isNewConfigurationNeeded s.device).2.2 = needed at h
    split at h
    · cases needed with
      | true =>
        rcases (mem_operations _ op).mp h with h | h | h
        · exact hother (Or.inl h)
        · exact absurd h List.not_mem_nil
        · rcases List.mem_cons.mp h with h | h
          · exact hdecided old (by simp [hmain, Main.operations]) h
          · exact hother (Or.inr h)
      | false => exact hidle _ h rfl rfl rfl
    · exact hidle _ h rfl rfl rfl
  · generalize (old.configurator.isNewConfigurationNeeded s.device).2.2 = needed at h
    cases needed <;> rcases (mem_operations _ op).mp h with h | h | h
    · exact hother (Or.inl h)
    · exact hdecided old (by simp [hmain, Main.operations]) (List.mem_singleton.mp h)
    · exact hother (Or.inr h)
    · exact hother (Or.inl h)
    · exact hdecided old (by simp [hmain, Main.operations]) (List.mem_singleton.mp h)
    · exact hother (Or.inr h)
  · rcases (System.set_undisturbed { s with main := .idle } old).operations with hset | hset
    · rw [hset] at h
      exact hidle _ h rfl rfl rfl
    · rw [hset] at h
      exact absurd h List.not_mem_nil
  · exact hidle _ h rfl rfl rfl

/-- The operation an activity has just built, beside what was under way. -/
private theorem built_origin {s : System} {op built : Operation} {main : Main}
    (hbuild : s.device.buildOperation = some built) (hmain : main.operations = [built])
    (h : op ∈ System.operations { s with main }) : s.Origin op := by
  rcases (System.mem_operations _ op).mp h with h | h | h
  · exact Or.inl ((s.mem_operations op).mpr (Or.inl h))
  · change op ∈ main.operations at h
    rw [hmain] at h
    exact Or.inr (Or.inl (List.mem_singleton.mp h ▸ hbuild))
  · exact Or.inl ((s.mem_operations op).mpr (Or.inr (Or.inr h)))

/-- The operations under way after a step. -/
theorem System.react_origin (s : System) (e : Event) {op : Operation}
    (h : op ∈ (s.react e).operations) : s.Origin op := by
  cases hown : e.isOwnStep with
  | false => exact (s.react_undisturbed hown).origin h
  | true =>
    cases e with
    | evaluate =>
      simp only [react, System.evaluate] at h
      split at h
      next hworker _ =>
        split at h
        · exact Or.inl h
        · split at h
          · exact Or.inl h
          next built hbuild =>
            rcases (mem_operations _ op).mp h with h | h
            · exact Or.inr (Or.inl (List.mem_singleton.mp h ▸ hbuild))
            · exact Or.inl ((s.mem_operations op).mpr (Or.inr h))
      · exact Or.inl h
    | workerStep => exact s.workerStep_origin h
    | homeCreate =>
      simp only [react, System.homeCreate] at h
      split at h
      · split at h
        · exact absurd h List.not_mem_nil
        next built hbuild => exact built_origin hbuild rfl h
      · exact Or.inl h
    | homeClick dialog =>
      simp only [react, System.homeClick] at h
      split at h
      next clicked _ _ =>
        exact (System.set_undisturbed { s with homeEnabled := false } clicked).origin h
      · exact Or.inl h
    | suwHandle =>
      simp only [react, System.suwHandle] at h
      split at h
      · split at h
        · exact absurd h List.not_mem_nil
        next built hbuild => exact built_origin hbuild rfl h
      · exact Or.inl h
    | mainStep => exact s.mainStep_origin h
    | modemCreate =>
      simp only [react, System.modemCreate] at h
      split at h
      · split at h <;> exact Or.inl h
      · exact Or.inl h
    | modemPick activity name =>
      simp only [react, System.modemPick] at h
      split at h <;> exact Or.inl h
    | _ => simp [Event.isOwnStep] at hown

/-- Every step keeps the operations under way sound. -/
theorem System.Sound.step {s : System} (h : s.Sound) (e : Event) : (s.step e).Sound := by
  intro op hop
  cases hboot : e.isReboot with
  | true =>
    cases e with
    | reboot => exact absurd hop List.not_mem_nil
    | _ => simp [Event.isReboot] at hboot
  | false =>
    have hinstalled := s.step_installed e hboot
    rcases s.clearLog.react_origin e hop with hold | hbuilt | ⟨old, hold, rfl⟩
    · exact (h op hold).congr hinstalled
    · exact (Device.buildOperation_sound hbuilt).congr hinstalled
    · exact (Operation.Sound.decided (d := s.clearLog.device) ((h old hold).congr rfl)).congr
        hinstalled

/-- In every run from the first boot on the operations under way are sound. -/
theorem System.sound_run (d : Device) (events : List Event) :
    (Library.run System.step (fresh d) events).Sound :=
  Library.run_invariant_of_step System.Sound (fun _ e h => h.step e) (fresh d) events
    fun _ hop => absurd hop List.not_mem_nil

end Yoshino.Customization
