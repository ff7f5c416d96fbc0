import Yoshino.Customization.ModemOutcome

/-!
# Which steps write the modem command unit

Each entry point of the selector is matched with the call it makes; every other step leaves the
unit alone.
-/

namespace Yoshino.Customization

/-- What `setModemConfiguration` and `reApplyModem` read besides their arguments. -/
def Device.modemView (d : Device) : Platform × StatusFile × Option Int :=
  (d.platform, d.status, d.csReApplyModem)

/-- The current modem depends on the platform and the status file only. -/
theorem getCurrentModemConfig_congr {d d' : Device} (hplatform : d'.platform = d.platform)
    (hstatus : d'.status = d.status) : getCurrentModemConfig d' = getCurrentModemConfig d := by
  simp only [getCurrentModemConfig, readModemAndStatus, hplatform, hstatus]

/-- Whether a modem has failed before depends on the view and the saved configuration only. -/
theorem triedUnsuccessfully_congr {d d' : Device} (h : d'.modemView = d.modemView)
    (hsaved : d'.savedConfig = d.savedConfig) (modem : String) :
    triedUnsuccessfully d' modem = triedUnsuccessfully d modem := by
  simp only [Device.modemView, Prod.mk.injEq] at h
  simp only [triedUnsuccessfully, isModemStatusSuccess, readModemAndStatus, h.1, h.2.1, hsaved]

/-- An outcome may be counted from an earlier device with the same view. -/
theorem ModemOutcome.of_quiet {d d' d'' : Device} {call : Option ModemCall}
    (hview : d'.modemView = d.modemView) (hquiet : d.ModemQuiet d')
    (h : ModemOutcome d' call d'') : ModemOutcome d call d'' := by
  simp only [Device.modemView, Prod.mk.injEq] at hview
  have hcurrentEq := getCurrentModemConfig_congr hview.1 hview.2.1
  cases h with
  | quiet h => exact .quiet (hquiet.trans h)
  | set hfresh havailable hcurrent hcommanded hsets =>
    refine .set hfresh ?_ (hcurrentEq ▸ hcurrent)
      ⟨hcommanded.unit, hcommanded.writes.trans (by rw [hquiet.writes])⟩ (by rw [hsets, hquiet.sets])
    simpa only [ModemSwitcher.getAvailableModemConfigurations, hview.1] using havailable
  | reApply henabled hcurrent hne hcommanded hsets =>
    refine .reApply ?_ (hcurrentEq ▸ hcurrent) hne
      ⟨hcommanded.unit, hcommanded.writes.trans (by rw [hquiet.writes])⟩ (by rw [hsets, hquiet.sets])
    simpa only [reApplyEnabled, hview.2.2] using henabled

/-- The call `set` makes, if the key has changed and there is a modem worth trying. -/
def Configurator.modemCall (c : Configurator) (d : Device) : Option ModemCall :=
  if anythingChangedSinceLastEvaluation d && c.mModem != "" && !triedUnsuccessfully d c.mModem then
    some (.set {} c.mModem)
  else none

/-- The call `switchOffIMS` makes. -/
def imsOffCall (d : Device) : Option ModemCall :=
  (modemForImsOff d).map (.set {})

/-- The call a step makes. -/
def System.modemCall (s : System) : Event → Option ModemCall
  | .carrierConfigChanged _ | .bootCompleted _ =>
    match s.main with
    | .idle =>
      if !isIMSEnabledBySetting s.device && !isModemDefault (reportedModem s.device) then
        imsOffCall s.device
      else none
    | _ => none
  | .imsPreference change =>
    match s.main with
    | .idle =>
      if s.device.eventSubId.getD invalidId ≠ invalidId ∧ change = 0 then imsOffCall s.device
      else none
    | _ => none
  | .reApplyPreference apply =>
    match s.main with
    | .idle => if apply = 1 then some .reApply else none
    | _ => none
  | .workerStep =>
    match s.worker with
    | .saved => some .reApply
    | _ => none
  | .homeClick dialog =>
    match s.main, s.dialogs[dialog]? with
    | .idle, some op => op.configurator.modemCall s.device
    | _, _ => none
  | .mainStep =>
    match s.main with
    | .suwNeeded op => op.configurator.modemCall s.device
    | _ => none
  | .modemPick activity name =>
    (s.picked activity name).map fun (a, modem) => .set a.switcher modem
  | _ => none

/-- Writing the configuration id is quiet and keeps what the modem functions read. -/
theorem Configurator.writeConfigId_quiet (c : Configurator) (d : Device) :
    d.ModemQuiet (c.writeConfigId d).1 ∧ (c.writeConfigId d).1.modemView = d.modemView ∧
      (c.writeConfigId d).1.savedConfig = d.savedConfig := by
  unfold writeConfigId
  split
  · exact ⟨.refl d, rfl, rfl⟩
  next id _ =>
    refine ⟨d.writeTa_quiet _ _ (by decide), ?_⟩
    rcases d.writeTa_cases taAcVersion (getBytes id) with ⟨rest, h⟩ | ⟨rest, h⟩ <;> rw [h] <;>
      exact ⟨rfl, rfl⟩

/-- `setConfiguration` makes its call, unless the modem failed before. -/
theorem setConfiguration_outcome (d : Device) (modem : String) :
    ModemOutcome d
      (if modem != "" && !triedUnsuccessfully d modem then some (.set {} modem) else none)
      (setConfiguration d modem).1 := by
  unfold setConfiguration
  by_cases hempty : modem = ""
  · simp only [hempty, if_true]
    exact .quiet (.refl d)
  · cases htried : triedUnsuccessfully d modem with
    | true =>
      simp only [hempty, if_false, if_true]
      exact .quiet (.refl d)
    | false =>
      simp only [hempty, if_false, bne_iff_ne, ne_eq, not_false_eq_true, Bool.not_false,
        Bool.and_true, if_true, Bool.false_eq_true]
      have hsaved : d.ModemQuiet { d with savedConfig := some modem } := ⟨rfl, rfl, rfl⟩
      refine .of_quiet ?_ hsaved (ModemSwitcher.setModemConfiguration_outcome {} _ modem)
      rfl

/-- `set` meets its outcome. -/
theorem Configurator.set_outcome (c : Configurator) (d : Device) :
    ModemOutcome d (c.modemCall d) (c.set d).1 := by
  unfold set modemCall
  cases hchanged : anythingChangedSinceLastEvaluation d with
  | false => exact .quiet (.refl d)
  | true =>
    obtain ⟨hquiet, hview, hsaved⟩ := c.writeConfigId_quiet (saveConfigurationKey d)
    have hquiet' : d.ModemQuiet (c.writeConfigId (saveConfigurationKey d)).1 :=
      ⟨hquiet.unit, hquiet.writes, hquiet.sets⟩
    have hview' : (c.writeConfigId (saveConfigurationKey d)).1.modemView = d.modemView := hview
    have hsaved' : (c.writeConfigId (saveConfigurationKey d)).1.savedConfig = d.savedConfig := hsaved
    simp only [if_true, Bool.true_and]
    generalize c.writeConfigId (saveConfigurationKey d) = result at hquiet' hview' hsaved'
    obtain ⟨d', completed⟩ := result
    cases completed with
    | false => exact .quiet hquiet'
    | true =>
      by_cases hempty : c.mModem = ""
      · simp only [hempty, if_true]
        exact .quiet hquiet'
      · simp only [hempty, if_false]
        rw [← triedUnsuccessfully_congr hview' hsaved' c.mModem]
        exact (setConfiguration_outcome d' c.mModem).of_quiet hview' hquiet'

/-- `switchOffIMS` meets its outcome. -/
theorem switchOffIMS_outcome (d : Device) : ModemOutcome d (imsOffCall d) (switchOffIMS d) := by
  unfold switchOffIMS imsOffCall
  cases modemForImsOff d with
  | none => exact .quiet (.refl d)
  | some modem => exact ModemSwitcher.setModemConfiguration_outcome {} d modem

/-- `set` of an operation changes the device as the configurator does, whether it throws or not. -/
theorem System.set_device (s : System) (op : Operation) :
    (s.set op).device = (op.configurator.set s.device).1 := by
  unfold set
  rcases op.configurator.set s.device with ⟨d, completed⟩
  cases completed <;> rfl

/-- Deciding changes nothing of the device but a system property. -/
theorem Configurator.isNewConfigurationNeeded_device (c : Configurator) (d : Device) :
    ∃ simIds, (c.isNewConfigurationNeeded d).1 = { d with simConfigIds := simIds } := by
  unfold isNewConfigurationNeeded
  split
  · cases c.mBundle with
    | none => exact ⟨d.simConfigIds, rfl⟩
    | some bundle => exact ⟨bundle.simId.getD "", rfl⟩
  · exact ⟨d.simConfigIds, rfl⟩

/-- Deciding is quiet. -/
theorem System.decide_quiet (s : System) (op : Operation) :
    s.device.ModemQuiet (s.decide op).1.device := by
  obtain ⟨simIds, h⟩ := op.configurator.isNewConfigurationNeeded_device s.device
  change s.device.ModemQuiet (op.configurator.isNewConfigurationNeeded s.device).1
  rw [h]
  exact ⟨rfl, rfl, rfl⟩

/-- Whatever deciding answers, it is quiet. -/
theorem System.decide_cases (s : System) (op : Operation) :
    ∃ s' op' needed, s.decide op = (s', op', needed) ∧ s.device.ModemQuiet s'.device :=
  ⟨_, _, _, rfl, s.decide_quiet op⟩

/-- What an event does to the unit before it is looked at any further. -/
theorem System.receive_outcome (s : System) (subscription : Int) :
    ModemOutcome s.device
      (if !isIMSEnabledBySetting s.device && !isModemDefault (reportedModem s.device) then
        imsOffCall s.device else none)
      (s.receive subscription).1.device := by
  obtain ⟨subId, h⟩ := s.receive_spec subscription
  rw [h]
  -- remembering the subscription touches nothing the rest reads
  have hquiet : s.device.ModemQuiet { s.device with eventSubId := subId } := ⟨rfl, rfl, rfl⟩
  have hview : ({ s.device with eventSubId := subId } : Device).modemView = s.device.modemView := rfl
  cases isIMSEnabledBySetting s.device with
  | true => exact .quiet hquiet
  | false =>
    cases isModemDefault (reportedModem s.device) with
    | true => exact .quiet hquiet
    | false => exact (switchOffIMS_outcome _).of_quiet hview hquiet

/-- Whether an event is a reboot. -/
def Event.isReboot : Event → Bool
  | .reboot .. => true
  | _ => false

/-- Looking further at a changed carrier configuration does not touch the device. -/
theorem System.carrierConfigChanged_device (s : System) (subscription : Int) :
    (s.carrierConfigChanged subscription).device = (s.receive subscription).1.device := by
  unfold carrierConfigChanged
  rcases s.receive subscription with ⟨s', further⟩
  cases further with
  | false => rfl
  | true =>
    dsimp only
    split <;> rfl

/-- Looking further at the end of booting does not touch the device. -/
theorem System.bootCompleted_device (s : System) (subscription : Int) :
    (s.bootCompleted subscription).device = (s.receive subscription).1.device := by
  unfold bootCompleted
  rcases s.receive subscription with ⟨s', further⟩
  cases further with
  | false => rfl
  | true =>
    dsimp only
    split <;> rfl

/-- Switching IMS on clears the key. -/
theorem System.switchOnIMS_device (s : System) (subId : Int) :
    (s.switchOnIMS subId).device = clearConfigurationKey s.device := by
  unfold switchOnIMS
  dsimp only
  split <;> rfl

/-- The IMS switch meets its outcome. -/
theorem System.imsPreference_outcome (s : System) (change : Int) :
    ModemOutcome s.device
      (if s.device.eventSubId.getD invalidId ≠ invalidId ∧ change = 0 then imsOffCall s.device
        else none)
      (s.imsPreference change).device := by
  unfold imsPreference
  by_cases hsub : s.device.eventSubId.getD invalidId = invalidId
  · simp only [hsub, if_true, ne_eq, not_true_eq_false, false_and, if_false]
    exact .quiet (.refl _)
  · by_cases hon : change = 1
    · simp only [hsub, hon, if_false, if_true, switchOnIMS_device]
      exact .quiet ⟨rfl, rfl, rfl⟩
    · by_cases hoff : change = 0
      · have hne : ¬ (0 : Int) = 1 := by decide
        simp only [hsub, hoff, hne, ne_eq, not_false_eq_true, and_self, if_true, if_false]
        exact switchOffIMS_outcome s.device
      · simp only [hsub, hon, hoff, and_false, if_false]
        exact .quiet (.refl _)

/-- The re-apply switch meets its outcome. -/
theorem System.reApplyPreference_outcome (s : System) (apply : Int) :
    ModemOutcome s.device (if apply = 1 then some .reApply else none)
      (s.reApplyPreference apply).device := by
  unfold reApplyPreference
  by_cases hon : apply = 1
  · simp only [hon, if_true]
    exact reApplyModem_outcome s.device
  · simp only [hon, if_false]
    split
    · unfold revertReApplyModem
      repeat' split
      · exact .quiet (.refl _)
      · exact .quiet (.refl _)
      · exact .quiet (s.device.writeTa_quiet _ _ (by decide))
    · exact .quiet (.refl _)

/-- The worker meets its outcome. -/
theorem System.workerStep_outcome (s : System) :
    ModemOutcome s.device (s.modemCall .workerStep) s.workerStep.device := by
  unfold workerStep modemCall
  rcases hworker : s.worker with _ | op | op | _
  · exact .quiet (.refl _)
  · obtain ⟨s', op', needed, hdecide, hquiet⟩ := s.decide_cases op
    dsimp only
    rw [hdecide]
    cases needed <;> exact .quiet hquiet
  · exact .quiet ⟨rfl, rfl, rfl⟩
  · exact reApplyModem_outcome s.device

/-- The main thread meets its outcome. -/
theorem System.mainStep_outcome (s : System) :
    ModemOutcome s.device (s.modemCall .mainStep) s.mainStep.device := by
  unfold mainStep modemCall
  rcases hmain : s.main with _ | op | op | op | op
  · exact .quiet (.refl _)
  · obtain ⟨s', op', needed, hdecide, hquiet⟩ := s.decide_cases op
    dsimp only
    split
    · rw [hdecide]
      cases needed <;> exact .quiet hquiet
    · exact .quiet (.refl _)
  · obtain ⟨s', op', needed, hdecide, hquiet⟩ := s.decide_cases op
    dsimp only
    rw [hdecide]
    cases needed <;> exact .quiet hquiet
  · dsimp only
    rw [set_device]
    exact op.configurator.set_outcome s.device
  · exact .quiet ⟨rfl, rfl, rfl⟩

/-- A step other than a reboot does to the unit what its call can do. -/
theorem System.react_modem (s : System) (e : Event) (hboot : e.isReboot = false) :
    ModemOutcome s.device (s.modemCall e) (s.react e).device := by
  cases e with
  | carrierConfigChanged subscription =>
    rcases hmain : s.main with _ | _ | _ | _ | _ <;>
      simp only [react, whenIdle, modemCall, hmain, carrierConfigChanged_device]
    · exact s.receive_outcome subscription
    all_goals exact .quiet (.refl _)
  | bootCompleted subscription =>
    rcases hmain : s.main with _ | _ | _ | _ | _ <;>
      simp only [react, whenIdle, modemCall, hmain, bootCompleted_device]
    · exact s.receive_outcome subscription
    all_goals exact .quiet (.refl _)
  | imsPreference change =>
    rcases hmain : s.main with _ | _ | _ | _ | _ <;> simp only [react, whenIdle, modemCall, hmain]
    · exact s.imsPreference_outcome change
    all_goals exact .quiet (.refl _)
  | reApplyPreference apply =>
    rcases hmain : s.main with _ | _ | _ | _ | _ <;> simp only [react, whenIdle, modemCall, hmain]
    · exact s.reApplyPreference_outcome apply
    all_goals exact .quiet (.refl _)
  | masterClear =>
    rcases hmain : s.main with _ | _ | _ | _ | _ <;>
      simp only [react, whenIdle, modemCall, hmain, masterClear]
    · have hquiet := s.device.writeTa_quiet taAcVersion (getBytes "") (by decide)
      revert hquiet
      rcases s.device.writeTa taAcVersion (getBytes "") with ⟨d, completed⟩
      intro hquiet
      cases completed <;> exact .quiet hquiet
    all_goals exact .quiet (.refl _)
  | dataSubscriptionJob =>
    simp only [react]
    split <;> exact .quiet (.refl _)
  | evaluate =>
    simp only [react, System.evaluate]
    repeat' split
    all_goals exact .quiet (.refl _)
  | workerStep => exact s.workerStep_outcome
  | homeCreate =>
    simp only [react, System.homeCreate]
    repeat' split
    all_goals exact .quiet (.refl _)
  | homeClick dialog =>
    rcases hmain : s.main with _ | _ | _ | _ | _ <;> cases hdialog : s.dialogs[dialog]? <;>
      simp only [react, System.homeClick, modemCall, hmain, hdialog, set_device]
    case idle.some op => exact op.configurator.set_outcome s.device
    all_goals exact .quiet (.refl _)
  | suwHandle =>
    simp only [react, System.suwHandle]
    repeat' split
    all_goals exact .quiet (.refl _)
  | mainStep => exact s.mainStep_outcome
  | modemCreate =>
    simp only [react, System.modemCreate]
    repeat' split
    all_goals exact .quiet ⟨rfl, rfl, rfl⟩
  | modemPick activity name =>
    simp only [react, System.modemPick, modemCall]
    cases s.picked activity name with
    | none => exact .quiet (.refl _)
    | some pick => exact pick.1.switcher.setModemConfiguration_outcome s.device pick.2
  | processKilled | telephonyChanged | csImsChanged | csReApplyModemChanged | userUnlocked =>
    exact .quiet ⟨rfl, rfl, rfl⟩
  | reboot => simp [Event.isReboot] at hboot

/-- The call of a step does not depend on the log. -/
theorem System.modemCall_clearLog (s : System) (e : Event) :
    s.clearLog.modemCall e = s.modemCall e := by
  cases e <;> rfl

/-- A step other than a reboot does to the unit what its call can do, counted from an empty log. -/
theorem System.step_modem (s : System) (e : Event) (hboot : e.isReboot = false) :
    ModemOutcome s.clearLog.device (s.modemCall e) (s.step e).device := by
  rw [← s.modemCall_clearLog e]
  exact s.clearLog.react_modem e hboot

end Yoshino.Customization
