import Yoshino.Customization.Selector
import Yoshino.Library.Runs

/-!
# The steps of the selector

`System.react` gives every event its effect; an event that is not possible in a state does
nothing. `System.step` starts each step with an empty log, so that the log of a state holds the
effects of the step that led to it.
-/

namespace Yoshino.Customization

/-- Begin `evaluateCarrierBundle`; it returns early while the user's storage is locked, and an
exception of the bundle ends it. -/
def System.evaluate (s : System) : System :=
  match s.worker, s.pending with
  | .idle, pending + 1 =>
    if !s.device.platform.directBoot && !s.device.userUnlocked then { s with pending }
    else match s.device.buildOperation with
      | none => { s with pending }
      | some op => { s with pending, worker := .built op }
  | _, _ => s

/-- Continue `evaluateCarrierBundle`. -/
def System.workerStep (s : System) : System :=
  match s.worker with
  | .idle => s
  | .built op =>
    match s.decide op with
    | (s', _, true) => { s' with worker := .idle, homeEnabled := true }
    | (s', op', false) => { s' with worker := .unneeded op' }
  | .unneeded op => { s.saveKey op with worker := .saved }
  | .saved => { s with device := reApplyModem s.device, worker := .idle }

/-- Begin `CustomizationSelectorActivity.onCreate`. -/
def System.homeCreate (s : System) : System :=
  match s.main, s.homeEnabled with
  | .idle, true =>
    match s.device.buildOperation with
    | none => s.crash
    | some op => { s with main := .homeBuilt op }
  | _, _ => s

/-- `CustomizationSelectorActivity.onClick`, up to the reboot. -/
def System.homeClick (s : System) (dialog : Nat) : System :=
  match s.main, s.dialogs[dialog]? with
  | .idle, some op => System.set { s with homeEnabled := false } op
  | _, _ => s

/-- Begin `CustomizationSelectorSUWActivity.handleConfiguration`. -/
def System.suwHandle (s : System) : System :=
  match s.main with
  | .idle =>
    match s.device.buildOperation with
    | none => s.crash
    | some op => { s with main := .suwBuilt op }
  | _ => s

/-- Continue what the main thread is in the middle of. -/
def System.mainStep (s : System) : System :=
  match s.main with
  | .idle => s
  | .homeBuilt op =>
    if isSIMLoaded s.device.telephony (getDefaultSubId s.device.telephony) then
      match s.decide op with
      | (s', op', true) => { s' with main := .idle, dialogs := op' :: s'.dialogs }
      | (s', _, false) => { s' with main := .idle, homeEnabled := false }
    else { s with main := .idle, homeEnabled := false }
  | .suwBuilt op =>
    match s.decide op with
    | (s', op', true) => { s' with main := .suwNeeded op' }
    | (s', op', false) => { s' with main := .suwUnneeded op' }
  | .suwNeeded op => System.set { s with main := .idle } op
  | .suwUnneeded op => { s.saveKey op with main := .idle }

/-- The initial modem after `saveInitialModem`. -/
def saveInitialModem (d : Device) (currentModem : String) : String :=
  if d.initialModem.getD "" = "" then currentModem else d.initialModem.getD ""

/-- `ModemSwitcherActivity.onCreate`; no list is shown without a current modem image. -/
def System.modemCreate (s : System) : System :=
  match s.main, getCurrentModemConfig s.device with
  | .idle, some current =>
    let currentModem := remove current modemFsPath
    if currentModem = singleModemFs ∨ currentModem = "" then s
    else
      let switcher : ModemSwitcher := {}
      let mInitialModem := saveInitialModem s.device currentModem
      let names := (switcher.getAvailableModemConfigurations s.device).map (remove · modemFsPath)
      { s with
        device := { s.device with initialModem := some mInitialModem }
        modemActivities :=
          { switcher := switcher.cache s.device, names, mInitialModem } :: s.modemActivities }
  | _, _ => s

/-- The activity and the modem configuration a pick asks for: a listed modem or the initial one. -/
def System.picked (s : System) (activity : Nat) (name : String) :
    Option (ModemActivity × String) :=
  match s.main, s.modemActivities[activity]? with
  | .idle, some a =>
    if name ∈ a.names ∨ name = a.mInitialModem then some (a, modemFsPath ++ name) else none
  | _, _ => none

/-- `ModemSwitcherActivity.applyModem`, up to the reboot. -/
def System.modemPick (s : System) (activity : Nat) (name : String) : System :=
  match s.picked activity name with
  | none => s
  | some (a, modem) =>
    let (d, switcher, _) := a.switcher.setModemConfiguration s.device modem
    { s with
      device := d
      modemActivities := s.modemActivities.set activity { a with switcher } }

/-- A reboot: preferences and settings stay, the process and its jobs do not. -/
def System.reboot (s : System) (platform : Platform) (status : StatusFile) (versions : Versions)
    (units : Nat → List UInt8) : System :=
  { s.crash with
    device := { s.device with platform, status, versions, units, userUnlocked := false }
    jobScheduled := false }

/-- Run a receiver when the main thread is free. -/
def System.whenIdle (s : System) (receiver : System → System) : System :=
  match s.main with
  | .idle => receiver s
  | _ => s

/-- The effect of an event. -/
def System.react (s : System) : Event → System
  | .carrierConfigChanged subscription => s.whenIdle (·.carrierConfigChanged subscription)
  | .bootCompleted subscription => s.whenIdle (·.bootCompleted subscription)
  | .imsPreference change => s.whenIdle (·.imsPreference change)
  | .reApplyPreference apply => s.whenIdle (·.reApplyPreference apply)
  | .masterClear => s.whenIdle (·.masterClear)
  | .dataSubscriptionJob => if s.jobScheduled then { s with pending := s.pending + 1 } else s
  | .evaluate => s.evaluate
  | .workerStep => s.workerStep
  | .homeCreate => s.homeCreate
  | .homeClick dialog => s.homeClick dialog
  | .suwHandle => s.suwHandle
  | .mainStep => s.mainStep
  | .modemCreate => s.modemCreate
  | .modemPick activity name => s.modemPick activity name
  | .processKilled => s.crash
  | .telephonyChanged telephony => { s with device := { s.device with telephony } }
  | .csImsChanged value => { s with device := { s.device with csIms := value } }
  | .csReApplyModemChanged value => { s with device := { s.device with csReApplyModem := value } }
  | .userUnlocked => { s with device := { s.device with userUnlocked := true } }
  | .reboot platform status versions units => s.reboot platform status versions units

/-- The system with an empty log. -/
def System.clearLog (s : System) : System :=
  { s with device := { s.device with log := [] } }

/-- One step of the system. -/
def System.step (s : System) (e : Event) : System :=
  s.clearLog.react e

end Yoshino.Customization
