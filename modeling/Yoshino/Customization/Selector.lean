import Yoshino.Customization.Configurator

/-!
# The customization selector as a system

The selector runs on two threads. Evaluations of the carrier bundle are serialised on a worker;
receivers and activities share the main thread. Reading the bundle, deciding, setting and storing
the key are separate atomic steps, so SIM changes and the other thread may fall between them.
A reboot or a crash of the process ends every operation under way; a reboot may also bring new
software, a new status file and other unit contents. A requested reboot is not forced: the steps
before it happens are part of the run.
-/

namespace Yoshino.Customization

/-- A configurator at work, with the device its bundle was read on, and whether its decision has
evaluated the bundle, which it does only when it finds another key than the stored one. -/
structure Operation where
  configurator : Configurator
  builtIn : Device
  evaluated : Bool := false

/-- The progress of `evaluateCarrierBundle`. -/
inductive Worker
  | idle
  | built (op : Operation)
  | unneeded (op : Operation)
  | saved

/-- What the main thread is in the middle of. -/
inductive Main
  | idle
  | homeBuilt (op : Operation)
  | suwBuilt (op : Operation)
  | suwNeeded (op : Operation)
  | suwUnneeded (op : Operation)

/-- A `ModemSwitcherActivity` that shows its list. -/
structure ModemActivity where
  switcher : ModemSwitcher
  names : List String
  mInitialModem : String
  deriving DecidableEq, Repr

/-- The selector and the phone it runs on. -/
structure System where
  device : Device
  /-- Evaluations asked for and not begun. -/
  pending : Nat := 0
  worker : Worker := .idle
  main : Main := .idle
  /-- Whether `CustomizationSelectorActivity` is enabled as a home screen. -/
  homeEnabled : Bool := false
  /-- The operations behind the reboot dialogs. -/
  dialogs : List Operation := []
  modemActivities : List ModemActivity := []
  jobScheduled : Bool := false
  /-- The operation that the stored configuration key stands for: the last one that has stored it after
  evaluating its bundle. -/
  stored : Option Operation := none

/-- The selector on a phone that has just booted for the first time. -/
def System.fresh (d : Device) : System where
  device := d

/-- What can happen to the selector. -/
inductive Event
  /-- `EventReceiver` with the carrier configuration of a subscription. -/
  | carrierConfigChanged (subscription : Int)
  /-- `EventReceiver` at the end of booting. -/
  | bootCompleted (subscription : Int)
  /-- `PreferenceReceiver` with a change of the IMS switch. -/
  | imsPreference (change : Int)
  /-- `PreferenceReceiver` with a change of the re-apply switch. -/
  | reApplyPreference (apply : Int)
  /-- `MasterClearReceiver`. -/
  | masterClear
  /-- `DSDataSubContentJob.onStartJob`. -/
  | dataSubscriptionJob
  /-- The worker begins an evaluation. -/
  | evaluate
  /-- The worker goes on. -/
  | workerStep
  /-- `CustomizationSelectorActivity.onCreate` reads the bundle. -/
  | homeCreate
  /-- The user confirms a reboot dialog. -/
  | homeClick (dialog : Nat)
  /-- `CustomizationSelectorSUWActivity.handleConfiguration` reads the bundle. -/
  | suwHandle
  /-- The main thread goes on. -/
  | mainStep
  /-- `ModemSwitcherActivity.onCreate`. -/
  | modemCreate
  /-- The user confirms a modem in `ModemSwitcherActivity`. -/
  | modemPick (activity : Nat) (name : String)
  /-- The process of the selector ends. -/
  | processKilled
  | telephonyChanged (telephony : Telephony)
  | csImsChanged (value : Option Int)
  | csReApplyModemChanged (value : Option Int)
  | userUnlocked
  | reboot (platform : Platform) (status : StatusFile) (versions : Versions)
      (units : Nat → List UInt8)

/-- The process dies: every operation is gone, enabled components and scheduled jobs stay. -/
def System.crash (s : System) : System :=
  { s with pending := 0, worker := .idle, main := .idle, dialogs := [], modemActivities := [] }

/-- Build a configurator from the carrier bundle of the device; `none` when that throws. -/
def Device.buildOperation (d : Device) : Option Operation :=
  (getCarrierBundle d).map fun bundle =>
    { configurator := { mBundle := some bundle }, builtIn := d }

/-- What the key stands for once an operation has stored it. -/
def System.storedBy (s : System) (op : Operation) : Option Operation :=
  if op.evaluated then some op else s.stored

/-- Store the key of the current SIM and software on behalf of an operation. -/
def System.saveKey (s : System) (op : Operation) : System :=
  { s with device := saveConfigurationKey s.device, stored := s.storedBy op }

/-- Run `set` for an operation; a MiscTA exception ends the process. -/
def System.set (s : System) (op : Operation) : System :=
  let stored := if anythingChangedSinceLastEvaluation s.device then s.storedBy op else s.stored
  match op.configurator.set s.device with
  | (d, true) => { s with device := d, stored }
  | (d, false) => System.crash { s with device := d, stored }

/-- Let an operation decide: the system with the device after it, the operation and the answer. -/
def System.decide (s : System) (op : Operation) : System × Operation × Bool :=
  let (d, c, needed) := op.configurator.isNewConfigurationNeeded s.device
  ({ s with device := d },
    { op with configurator := c, evaluated := anythingChangedSinceLastEvaluation s.device }, needed)

/-- `EventReceiver.getSubId`. -/
def eventSubId (d : Device) (subscription : Int) : Int :=
  if subscription != invalidId && isMandatorySimParamsAvailable d.telephony subscription then
    subscription
  else invalidId

/-- The modem of `EventReceiver.readModemFile`. -/
def reportedModem (d : Device) : String :=
  ((readModemStatusFile d.status).map (·.currentModem)).getD "N/A"

/-- The beginning of `EventReceiver.onReceive`: remember the subscription, and with IMS off return
to the default modem. The answer is whether the event is looked at any further. -/
def System.receive (s : System) (subscription : Int) : System × Bool :=
  let subId := eventSubId s.device subscription
  let d := if subId = invalidId then s.device else { s.device with eventSubId := some subId }
  if isIMSEnabledBySetting d then ({ s with device := d }, true)
  else if isModemDefault (reportedModem d) then ({ s with device := d }, false)
  else ({ s with device := switchOffIMS d }, false)

/-- Whatever the subscription, the decision depends on the device before; at most the subscription is
remembered. -/
theorem System.receive_spec (s : System) (subscription : Int) : ∃ subId, s.receive subscription =
    if isIMSEnabledBySetting s.device then
      ({ s with device := { s.device with eventSubId := subId } }, true)
    else if isModemDefault (reportedModem s.device) then
      ({ s with device := { s.device with eventSubId := subId } }, false)
    else ({ s with device := switchOffIMS { s.device with eventSubId := subId } }, false) := by
  unfold System.receive
  dsimp only
  by_cases h : eventSubId s.device subscription = invalidId
  · rw [if_pos h]
    exact ⟨s.device.eventSubId, rfl⟩
  · rw [if_neg h]
    exact ⟨some (eventSubId s.device subscription), rfl⟩

/-- `EventReceiver.onReceive` with a changed carrier configuration. -/
def System.carrierConfigChanged (s : System) (subscription : Int) : System :=
  match s.receive subscription with
  | (s', false) => s'
  | (s', true) =>
    if isDefaultDataSlot s'.device.telephony (eventSubId s'.device subscription) then
      { s' with pending := s'.pending + 1 }
    else s'

/-- `EventReceiver.onReceive` after booting. -/
def System.bootCompleted (s : System) (subscription : Int) : System :=
  match s.receive subscription with
  | (s', false) => s'
  | (s', true) => if isDualSim s'.device.telephony then { s' with jobScheduled := true } else s'

/-- `ImsSwitcher.switchOnIMS`. -/
def System.switchOnIMS (s : System) (subId : Int) : System :=
  let s := { s with device := clearConfigurationKey s.device, stored := none }
  if isDefaultDataSlot s.device.telephony subId then { s with pending := s.pending + 1 } else s

/-- `PreferenceReceiver.onReceive` with `PREF_IMS`. -/
def System.imsPreference (s : System) (change : Int) : System :=
  let subId := s.device.eventSubId.getD invalidId
  if subId = invalidId then s
  else if change = 1 then s.switchOnIMS subId
  else if change = 0 then { s with device := switchOffIMS s.device }
  else s

/-- `PreferenceReceiver.onReceive` with `PREF_REAPPLY_MODEM`, up to the reboot. -/
def System.reApplyPreference (s : System) (apply : Int) : System :=
  if apply = 1 then { s with device := reApplyModem s.device }
  else if apply = 0 then { s with device := revertReApplyModem s.device }
  else s

/-- `MasterClearReceiver.onReceive`. -/
def System.masterClear (s : System) : System :=
  match s.device.writeTa taAcVersion (getBytes "") with
  | (d, true) => { s with device := d }
  | (d, false) => System.crash { s with device := d }

end Yoshino.Customization
