import Mathlib.Data.List.Sort
import Yoshino.Customization.Selector

/-!
# The setup wizard

`CustomizationSelectorSUWActivity` sets a configuration when the SIM is loaded and posts
`MSG_REBOOT` to its handler. Broadcasts, `onResume` and messages are handled one after the other on
the main looper; messages are delivered by due time, in the order they were sent for equal times.
The phone may change between any two of them.
-/

namespace Yoshino.Customization

/-- The messages of `StateHandler`. -/
inductive WizardMessage
  /-- `MSG_CONTINUE`. -/
  | goOn
  /-- `MSG_REBOOT`. -/
  | reboot
  deriving DecidableEq, Repr

/-- A message in the queue of the looper. -/
structure QueuedMessage where
  due : Nat
  what : WizardMessage
  deriving DecidableEq, Repr

/-- The extra `ss` of a SIM state broadcast. -/
inductive IccState
  | loaded
  | permDisabled
  | absent
  | cardIoError
  | locked
  /-- Any other text, or none. -/
  | other
  deriving DecidableEq, Repr

/-- How far the activity has come. -/
inductive Lifecycle
  /-- `onCreate` returned early, before it registered `mSimReceiver`. -/
  | skipped
  /-- `mSimReceiver` is registered. -/
  | receiving
  /-- `onDestroy` has run, or the process has ended. -/
  | destroyed
  /-- The activity has been garbage collected, so `mWeakActivity` is empty. -/
  | collected
  deriving DecidableEq, Repr

/-- The activity, its messages and the phone. -/
structure Wizard where
  device : Device
  /-- The time of the looper in milliseconds. -/
  now : Nat
  queue : List QueuedMessage
  activity : Lifecycle
  /-- A configuration has been set and its reboot has not been handled. -/
  rebootOwed : Bool
  /-- The wizard went on while a reboot was owed. -/
  overtaken : Bool

/-- What the main looper runs, and what happens around it. -/
inductive WizardEvent
  /-- `SIM_STATE_CHANGED`; without extras it is `none`. -/
  | simStateChanged (state : Option IccState)
  /-- `onResume`. -/
  | resume
  /-- The looper takes the next message that is due. -/
  | deliver
  /-- `onDestroy`. -/
  | destroy
  /-- The garbage collector takes the destroyed activity. -/
  | collect
  | elapse (milliseconds : Nat)
  | deviceChanged (device : Device)

/-- `getSimState` of the phone's only slot. -/
def Device.simState (d : Device) : SimState :=
  d.telephony.simState 0

/-- `isSimWorking`. -/
def isSimWorking (d : Device) : Bool :=
  match d.simState with
  | .absent | .permDisabled | .cardIoError => false
  | _ => true

/-- `sendEmptyMessageDelayed`: behind the messages that are due no later. -/
def Wizard.send (w : Wizard) (delay : Nat) (what : WizardMessage) : Wizard :=
  { w with queue := w.queue.orderedInsert (fun a b => a.due < b.due) ⟨w.now + delay, what⟩ }

/-- `removeCallbacksAndMessages(null)`. -/
def Wizard.clear (w : Wizard) : Wizard :=
  { w with queue := [] }

/-- `startTimeout`. -/
def Wizard.startTimeout (w : Wizard) : Wizard :=
  if w.device.simState = .pinRequired ∨ w.device.simState = .pukRequired then w
  else w.send 120000 .goOn

/-- `continueSetupWizard`. -/
def Wizard.continueSetupWizard (w : Wizard) : Wizard :=
  { w.clear with overtaken := w.overtaken || w.rebootOwed }

/-- The process ends, and with it the queue. -/
def Wizard.crash (w : Wizard) : Wizard :=
  { w.clear with activity := .destroyed }

/-- `handleConfiguration`. -/
def Wizard.handleConfiguration (w : Wizard) : Wizard :=
  match w.device.buildOperation with
  | none => w.crash
  | some op =>
    match op.configurator.isNewConfigurationNeeded w.device with
    | (d, c, true) =>
      match c.set d with
      | (d', true) => { w.clear with device := d', rebootOwed := true }.send 0 .reboot
      | (d', false) => { w with device := d' }.crash
    | (d, _, false) => { w.clear with device := saveConfigurationKey d }.send 0 .goOn

/-- `mSimReceiver.onReceive`. -/
def Wizard.onReceive (w : Wizard) (state : IccState) : Wizard :=
  match state with
  | .loaded => w.startTimeout.handleConfiguration
  | .permDisabled | .absent | .cardIoError => w.startTimeout.continueSetupWizard
  | .locked => w.startTimeout.clear
  | .other => w.startTimeout

/-- `StateHandler.handleMessage`. -/
def Wizard.handleMessage (w : Wizard) (what : WizardMessage) : Wizard :=
  if w.activity = .collected then w.clear
  else
    match what with
    | .goOn => w.clear.continueSetupWizard
    | .reboot => { w.clear with rebootOwed := false }

/-- One step of the main looper. -/
def Wizard.step (w : Wizard) : WizardEvent → Wizard
  | .simStateChanged none => w
  | .simStateChanged (some state) => if w.activity = .receiving then w.onReceive state else w
  | .resume =>
    if w.activity = .destroyed ∨ w.activity = .collected then w
    else if isSimWorking w.device then w.startTimeout
    else w.continueSetupWizard
  | .deliver =>
    match w.queue with
    | message :: _ => if message.due ≤ w.now then w.handleMessage message.what else w
    | [] => w
  | .destroy =>
    match w.activity with
    -- `unregisterReceiver` throws for a receiver that was never registered
    | .skipped => w.crash
    | .receiving => { w with activity := .destroyed }
    | .destroyed | .collected => w
  | .collect => if w.activity = .destroyed then { w with activity := .collected } else w
  | .elapse milliseconds => { w with now := w.now + milliseconds }
  | .deviceChanged device => { w with device }

/-- `onCreate`. -/
def Wizard.onCreate (d : Device) (now : Nat) : Wizard :=
  let w : Wizard := ⟨d, now, [], .skipped, false, false⟩
  if isDualSim d.telephony || !isSimWorking d then w.continueSetupWizard
  else { w with activity := .receiving }

end Yoshino.Customization
