import Yoshino.Customization.ModemCalls
import Yoshino.Customization.Underway

/-!
# What a step keeps of the phone

The frame of a device is what remains when the results of modem writes and the selector's notes to
itself are left out: the installed software, the SIM, the settings and the configuration key.
`System.step_frame` says how a step changes the frame: storing or clearing the key, or the change
of the environment that the event is.
-/

namespace Yoshino.Customization

/-- The device without what modem writes and notes change. -/
def Device.frame (d : Device) : Device :=
  { d with
    simConfigIds := ""
    savedConfig := none
    eventSubId := none
    initialModem := none
    units := fun _ => []
    taOutcomes := []
    log := [] }

/-- A MiscTA write keeps the frame. -/
theorem Device.writeTa_frame (d : Device) (unit : Nat) (data : List UInt8) :
    (d.writeTa unit data).1.frame = d.frame := by
  rcases d.writeTa_cases unit data with ⟨rest, h⟩ | ⟨rest, h⟩ <;> rw [h] <;> rfl

/-- `setModemConfiguration` keeps the frame. -/
theorem ModemSwitcher.setModemConfiguration_frame (switcher : ModemSwitcher) (d : Device)
    (modem : String) : (switcher.setModemConfiguration d modem).1.frame = d.frame := by
  have h := d.writeTa_frame modemCommandUnit (changeCommand (getName modem))
  unfold setModemConfiguration writeModemToMiscTA
  revert h
  rcases d.writeTa modemCommandUnit (changeCommand (getName modem)) with ⟨d', accepted⟩
  intro h
  split
  · rfl
  · split
    · split
      · rfl
      · cases accepted <;> exact h
    · rfl

/-- `reApplyModem` keeps the frame. -/
theorem reApplyModem_frame (d : Device) : (reApplyModem d).frame = d.frame := by
  unfold reApplyModem writeModemToMiscTA
  split
  · rfl
  · split
    · rfl
    next modem _ =>
      split
      · rfl
      · have h := Device.writeTa_frame { d with savedConfig := some modem } modemCommandUnit
          (changeCommand (getName modem))
        revert h
        rcases Device.writeTa { d with savedConfig := some modem } modemCommandUnit
          (changeCommand (getName modem)) with ⟨d', accepted⟩
        intro h
        cases accepted with
        | false => exact h
        | true => exact (d'.writeTa_frame _ _).trans h

/-- `revertReApplyModem` keeps the frame. -/
theorem revertReApplyModem_frame (d : Device) : (revertReApplyModem d).frame = d.frame := by
  unfold revertReApplyModem
  split
  · rfl
  · split
    · rfl
    · exact d.writeTa_frame _ _

/-- `switchOffIMS` keeps the frame. -/
theorem switchOffIMS_frame (d : Device) : (switchOffIMS d).frame = d.frame := by
  unfold switchOffIMS
  split
  · rfl
  · exact ModemSwitcher.setModemConfiguration_frame {} d _

/-- `setConfiguration` keeps the frame. -/
theorem setConfiguration_frame (d : Device) (modem : String) :
    (setConfiguration d modem).1.frame = d.frame := by
  unfold setConfiguration
  split
  · rfl
  · split
    · rfl
    · exact ModemSwitcher.setModemConfiguration_frame {} { d with savedConfig := some modem } modem

/-- `set` stores the key if it has changed, and keeps the rest of the frame. -/
theorem Configurator.set_frame (c : Configurator) (d : Device) :
    (c.set d).1.frame =
      (if anythingChangedSinceLastEvaluation d then saveConfigurationKey d else d).frame := by
  unfold set
  cases anythingChangedSinceLastEvaluation d with
  | false => rfl
  | true =>
    have h : (c.writeConfigId (saveConfigurationKey d)).1.frame = (saveConfigurationKey d).frame := by
      unfold writeConfigId
      split
      · rfl
      · exact Device.writeTa_frame _ _ _
    simp only [if_true]
    revert h
    rcases c.writeConfigId (saveConfigurationKey d) with ⟨d', completed⟩
    intro h
    cases completed with
    | false => exact h
    | true =>
      by_cases hempty : c.mModem = ""
      · simp only [hempty, if_true]
        exact h
      · simp only [hempty, if_false]
        exact (setConfiguration_frame d' c.mModem).trans h

/-- Deciding keeps the frame. -/
theorem System.decide_frame (s : System) (op : Operation) :
    (s.decide op).1.device.frame = s.device.frame := by
  obtain ⟨simIds, h⟩ := op.configurator.isNewConfigurationNeeded_device s.device
  change (op.configurator.isNewConfigurationNeeded s.device).1.frame = _
  rw [h]
  rfl

/-- Whatever deciding answers, it leaves the frame and the note of what the key stands for. -/
theorem System.decide_kept (s : System) (op : Operation) :
    ∃ s' op' needed, s.decide op = (s', op', needed) ∧
      s'.device.frame = s.device.frame ∧ s'.stored = s.stored :=
  ⟨_, _, _, rfl, s.decide_frame op, rfl⟩

/-- Receiving an event keeps the frame. -/
theorem System.receive_frame (s : System) (subscription : Int) :
    (s.receive subscription).1.device.frame = s.device.frame := by
  obtain ⟨subId, h⟩ := s.receive_spec subscription
  rw [h]
  split
  · rfl
  · split
    · rfl
    · exact switchOffIMS_frame _

/-- The operation whose `set` a step calls. -/
def System.setting (s : System) : Event → Option Operation
  | .mainStep =>
    match s.main with
    | .suwNeeded op => some op
    | _ => none
  | .homeClick dialog =>
    match s.main, s.dialogs[dialog]? with
    | .idle, some op => some op
    | _, _ => none
  | _ => none

/-- The operation on whose behalf a step stores the key. -/
def System.storing (s : System) : Event → Option Operation
  | .workerStep =>
    match s.worker with
    | .unneeded op => some op
    | _ => none
  | .mainStep =>
    match s.main with
    | .suwNeeded op => if anythingChangedSinceLastEvaluation s.device then some op else none
    | .suwUnneeded op => some op
    | _ => none
  | .homeClick dialog =>
    match s.main, s.dialogs[dialog]? with
    | .idle, some op => if anythingChangedSinceLastEvaluation s.device then some op else none
    | _, _ => none
  | _ => none

/-- Whether a step calls `clearConfigurationKey`. -/
def System.clearsKey (s : System) : Event → Bool
  | .imsPreference change =>
    match s.main with
    | .idle => s.device.eventSubId.getD invalidId != invalidId && change == 1
    | _ => false
  | _ => false

/-- The device after what a step does to its frame. -/
def System.frameAfter (s : System) : Event → Device
  | .telephonyChanged telephony => { s.device with telephony }
  | .csImsChanged value => { s.device with csIms := value }
  | .csReApplyModemChanged value => { s.device with csReApplyModem := value }
  | .userUnlocked => { s.device with userUnlocked := true }
  | .reboot platform status versions _ =>
    { s.device with platform, status, versions, userUnlocked := false }
  | e =>
    if (s.storing e).isSome then saveConfigurationKey s.device
    else if s.clearsKey e then clearConfigurationKey s.device
    else s.device

/-- What `set` of an operation does to the frame and to the note of what the key stands for. -/
theorem System.set_frame (s : System) (op : Operation) :
    (s.set op).device.frame =
        (if anythingChangedSinceLastEvaluation s.device then saveConfigurationKey s.device
          else s.device).frame ∧
      (s.set op).stored =
        if anythingChangedSinceLastEvaluation s.device then s.storedBy op else s.stored := by
  rw [set_device]
  refine ⟨op.configurator.set_frame s.device, ?_⟩
  unfold set
  rcases op.configurator.set s.device with ⟨d, completed⟩
  cases completed <;> rfl

/-- The IMS switch clears the key or keeps the frame. -/
theorem System.imsPreference_frame (s : System) (change : Int) :
    (s.imsPreference change).device.frame =
        (if s.device.eventSubId.getD invalidId ≠ invalidId ∧ change = 1 then
          clearConfigurationKey s.device else s.device).frame ∧
      (s.imsPreference change).stored =
        if s.device.eventSubId.getD invalidId ≠ invalidId ∧ change = 1 then none else s.stored := by
  unfold imsPreference
  by_cases hsub : s.device.eventSubId.getD invalidId = invalidId
  · simp [hsub]
  · by_cases hon : change = 1
    · simp only [hsub, hon, if_false, if_true, switchOnIMS_device, ne_eq, not_false_eq_true,
        and_self, true_and]
      unfold switchOnIMS
      dsimp only
      split <;> rfl
    · simp only [hsub, hon, if_false, and_false]
      split
      · exact ⟨switchOffIMS_frame s.device, rfl⟩
      · exact ⟨rfl, rfl⟩

/-- What the key stands for after a step. -/
def System.storedAfter (s : System) (e : Event) : Option Operation :=
  match s.storing e with
  | some op => s.storedBy op
  | none => if s.clearsKey e then none else s.stored

/-- A step does to the frame and to the note of what the key stands for what `frameAfter` and
`storedAfter` say. -/
theorem System.react_frame (s : System) (e : Event) :
    (s.react e).device.frame = (s.frameAfter e).frame ∧ (s.react e).stored = s.storedAfter e := by
  cases e with
  | carrierConfigChanged subscription =>
    have h := s.receive_frame subscription
    have hstored : (s.carrierConfigChanged subscription).stored = s.stored := by
      obtain ⟨d, _, heq⟩ := s.carrierConfigChanged_eq subscription
      rw [heq]
    rcases hmain : s.main with _ | _ | _ | _ | _ <;>
      simp only [react, whenIdle, hmain, carrierConfigChanged_device, h, hstored] <;>
      exact ⟨rfl, rfl⟩
  | bootCompleted subscription =>
    have h := s.receive_frame subscription
    have hstored : (s.bootCompleted subscription).stored = s.stored := by
      obtain ⟨d, _, heq⟩ := s.bootCompleted_eq subscription
      rw [heq]
    rcases hmain : s.main with _ | _ | _ | _ | _ <;>
      simp only [react, whenIdle, hmain, bootCompleted_device, h, hstored] <;>
      exact ⟨rfl, rfl⟩
  | imsPreference change =>
    rcases hmain : s.main with _ | _ | _ | _ | _ <;>
      simp only [react, whenIdle, hmain, frameAfter, storedAfter, storing, clearsKey]
    · simpa using s.imsPreference_frame change
    all_goals exact ⟨rfl, rfl⟩
  | reApplyPreference apply =>
    rcases hmain : s.main with _ | _ | _ | _ | _ <;>
      simp only [react, whenIdle, hmain, reApplyPreference]
    · split
      · exact ⟨reApplyModem_frame s.device, rfl⟩
      · split
        · exact ⟨revertReApplyModem_frame s.device, rfl⟩
        · exact ⟨rfl, rfl⟩
    all_goals exact ⟨rfl, rfl⟩
  | masterClear =>
    rcases hmain : s.main with _ | _ | _ | _ | _ <;>
      simp only [react, whenIdle, hmain, masterClear]
    · have h := s.device.writeTa_frame taAcVersion (getBytes "")
      revert h
      rcases s.device.writeTa taAcVersion (getBytes "") with ⟨d, completed⟩
      intro h
      cases completed <;> exact ⟨h, rfl⟩
    all_goals exact ⟨rfl, rfl⟩
  | dataSubscriptionJob =>
    simp only [react]
    split <;> exact ⟨rfl, rfl⟩
  | evaluate =>
    simp only [react, System.evaluate]
    repeat' split
    all_goals exact ⟨rfl, rfl⟩
  | workerStep =>
    rcases hworker : s.worker with _ | op | op | _ <;>
      simp only [react, System.workerStep, hworker, frameAfter, storedAfter, storing, clearsKey]
    · exact ⟨rfl, rfl⟩
    · obtain ⟨s', op', needed, hdecide, hkept⟩ := s.decide_kept op
      rw [hdecide]
      cases needed <;> exact hkept
    · exact ⟨rfl, rfl⟩
    · exact ⟨reApplyModem_frame s.device, rfl⟩
  | homeCreate =>
    simp only [react, System.homeCreate]
    repeat' split
    all_goals exact ⟨rfl, rfl⟩
  | homeClick dialog =>
    rcases hmain : s.main with _ | _ | _ | _ | _ <;> cases hdialog : s.dialogs[dialog]? <;>
      simp only [react, System.homeClick, frameAfter, storedAfter, storing, clearsKey, hmain,
        hdialog]
    case idle.some op =>
      have h := System.set_frame { s with main := .idle, homeEnabled := false } op
      revert h
      cases anythingChangedSinceLastEvaluation s.device <;> intro h <;> exact h
    all_goals exact ⟨rfl, rfl⟩
  | suwHandle =>
    simp only [react, System.suwHandle]
    repeat' split
    all_goals exact ⟨rfl, rfl⟩
  | mainStep =>
    rcases hmain : s.main with _ | op | op | op | op <;>
      simp only [react, System.mainStep, hmain, frameAfter, storedAfter, storing, clearsKey]
    · exact ⟨rfl, rfl⟩
    · obtain ⟨s', op', needed, hdecide, hkept⟩ := s.decide_kept op
      rw [hdecide]
      split
      · cases needed <;> exact hkept
      · exact ⟨rfl, rfl⟩
    · obtain ⟨s', op', needed, hdecide, hkept⟩ := s.decide_kept op
      rw [hdecide]
      cases needed <;> exact hkept
    · have h := System.set_frame { s with main := .idle } op
      revert h
      cases anythingChangedSinceLastEvaluation s.device <;> intro h <;> exact h
    · exact ⟨rfl, rfl⟩
  | modemCreate =>
    simp only [react, System.modemCreate]
    repeat' split
    all_goals exact ⟨rfl, rfl⟩
  | modemPick activity name =>
    simp only [react, System.modemPick]
    cases s.picked activity name with
    | none => exact ⟨rfl, rfl⟩
    | some pick => exact ⟨pick.1.switcher.setModemConfiguration_frame s.device pick.2, rfl⟩
  | processKilled | telephonyChanged | csImsChanged | csReApplyModemChanged | userUnlocked
  | reboot => exact ⟨rfl, rfl⟩

/-- A step changes the frame and the note of what the key stands for as its event says. -/
theorem System.step_frame (s : System) (e : Event) :
    (s.step e).device.frame = (s.frameAfter e).frame ∧ (s.step e).stored = s.storedAfter e := by
  have h := s.clearLog.react_frame e
  have hstored : s.clearLog.storedAfter e = s.storedAfter e := by
    cases e <;> rfl
  refine ⟨h.1.trans ?_, h.2.trans hstored⟩
  have hstoring : s.clearLog.storing e = s.storing e := by
    cases e <;> rfl
  have hclears : s.clearLog.clearsKey e = s.clearsKey e := by
    cases e <;> rfl
  cases e with
  | telephonyChanged | csImsChanged | csReApplyModemChanged | userUnlocked | reboot => rfl
  | _ =>
    simp only [frameAfter, hstoring, hclears]
    split
    · rfl
    · split <;> rfl

/-- The stored key after a step. -/
theorem System.step_configKey (s : System) (e : Event) :
    (s.step e).device.configKey =
      if (s.storing e).isSome then some (createCurrentConfigurationKey s.device)
      else if s.clearsKey e then some clearedKey
      else s.device.configKey := by
  have h := congrArg Device.configKey (s.step_frame e).1
  change (s.step e).device.configKey = (s.frameAfter e).configKey at h
  rw [h]
  cases e with
  | telephonyChanged | csImsChanged | csReApplyModemChanged | userUnlocked | reboot => rfl
  | _ =>
    simp only [frameAfter]
    split
    · rfl
    · split <;> rfl

end Yoshino.Customization
