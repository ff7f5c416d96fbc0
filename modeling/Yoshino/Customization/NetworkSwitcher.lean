import Mathlib.Logic.Function.Basic
import Yoshino.Customization.CarrierBundle

/-!
# The network switcher

`NetworkSwitcher` is a service that `NSBootReceiver` starts at boot. It waits for the SIM, saves the
preferred network mode and lowers it, and gives the saved mode back once the phone is unlocked and
has signal; then it stops itself. Its callbacks run one after the other on the main looper. The
process can be killed between any two of them and is then restarted from `onCreate`, and everybody
else may write the preferred mode and the settings of the service at any time.
-/

namespace Yoshino.Customization

/-- The access families of the framework's network modes. -/
structure Radio where
  getRafFromNetworkType : Int → Nat
  rafLTE : Nat
  rafLTECA : Nat
  /-- `NETWORK_MODE_WCDMA_PREF` is a 3G mode. -/
  wcdmaPref_notLTE : getRafFromNetworkType 0 &&& (rafLTE ||| rafLTECA) = 0

/-- `RILConstants.NETWORK_MODE_WCDMA_PREF`. -/
def networkModeWcdmaPref : Int := 0

/-- `RILConstants.NETWORK_MODE_LTE_GSM_WCDMA`. -/
def networkModeLteGsmWcdma : Int := 9

/-- The settings the switcher reads and writes; one that was never written is `none`. -/
structure NetworkSettings where
  /-- `PREFERRED_NETWORK_MODE` of a subscription. -/
  preferredNetworkMode : Int → Option Int
  /-- `ns_preferred` of a subscription. -/
  nsPreferred : Int → Option Int
  nsLowNet : Option Int
  nsService : Option Int
  nsSlot : Option Int
  airplaneModeOn : Int

/-- The callbacks the running service waits for. -/
inductive Waiting
  /-- `SubIdObserver` is registered. -/
  | subId
  /-- `SlotObserver` is registered. -/
  | slot (subId : Int)
  /-- `switchDown` is posted. -/
  | switchDown (subId : Int)
  /-- `switchDown` has registered its receiver of `USER_UNLOCKED`. -/
  | unlock (subId : Int)
  /-- `mAirplaneModeObserver` is registered, and `mSimServiceObserver` if so flagged. -/
  | airplane (subId : Int) (simService : Bool)
  /-- `mSimServiceObserver` alone is registered. -/
  | simService (subId : Int)
  /-- Nothing is registered. -/
  | nothing
  deriving DecidableEq, Repr

/-- The service in its life cycle. -/
inductive Switcher
  /-- Not started since the boot. -/
  | notStarted
  /-- Running; the flag says whether `mUnlockObserver` is set. -/
  | running (unlockObserver : Bool) (waiting : Waiting)
  /-- Killed, to be restarted because of `START_STICKY`. -/
  | killed
  /-- Stopped by `stopSelf`. -/
  | stopped
  deriving DecidableEq, Repr

/-- The phone around the switcher. -/
structure NetworkPhone where
  radio : Radio
  /-- `CommonUtil.isDirectBootEnabled`. -/
  directBoot : Bool
  telephony : Telephony
  settings : NetworkSettings
  /-- What `setPreferredNetworkTypeBitmask` answers. -/
  accepts : Bool
  switcher : Switcher
  /-- The last preferred mode of a subscription written by anyone but the switcher. -/
  userMode : Int → Option Int
  /-- The subscriptions whose mode the switcher has replaced, with no other write since. -/
  lowered : List Int

/-- What happens to the phone. -/
inductive NetworkEvent
  /-- `LOCKED_BOOT_COMPLETED` or `QUICKBOOT_POWERON` reaches `NSBootReceiver`. -/
  | bootCompleted
  | reboot
  | kill
  /-- The system restarts the killed service. -/
  | restart
  /-- The broadcast `USER_UNLOCKED`. -/
  | userUnlocked
  | airplaneMode (value : Int)
  /-- `AirplaneModeObserver.onChange`. -/
  | airplaneObserved
  /-- The runnable of the registered observer of the SIM. -/
  | poll
  /-- The posted `switchDown` is due. -/
  | switchDownDue
  | telephonyChanged (telephony : Telephony)
  /-- Anyone else writes the preferred mode. -/
  | preferredWritten (subId mode : Int)
  /-- Anyone else writes the settings of the service. -/
  | configured (nsService nsSlot nsLowNet : Option Int)
  /-- The modem begins or ceases to accept network types. -/
  | radioChanged (accepts : Bool)

/-- `CommonUtil.getSimSlotIndex`. -/
def NetworkPhone.getSimSlotIndex (p : NetworkPhone) (defaultIdx : Int) : Int :=
  if isDualSim p.telephony then p.settings.nsSlot.getD defaultIdx else 0

/-- `CommonUtil.getSubID`. -/
def NetworkPhone.getSubID (p : NetworkPhone) : Int :=
  (p.telephony.subId (p.getSimSlotIndex 0)).getD invalidId

/-- `CommonUtil.hasSignal` for the manager of a subscription. -/
def NetworkPhone.hasSignal (p : NetworkPhone) (subId : Int) : Bool :=
  p.telephony.signal subId

/-- `getPreferredNetwork`. -/
def NetworkPhone.getPreferredNetwork (p : NetworkPhone) (subId : Int) : Int :=
  (p.settings.preferredNetworkMode subId).getD networkModeWcdmaPref

/-- `getOriginalNetwork`. -/
def NetworkPhone.getOriginalNetwork (p : NetworkPhone) (subId : Int) : Int :=
  (p.settings.nsPreferred subId).getD networkModeLteGsmWcdma

/-- `setOriginalNetwork`. -/
def NetworkPhone.setOriginalNetwork (p : NetworkPhone) (subId network : Int) : NetworkPhone :=
  { p with settings.nsPreferred := Function.update p.settings.nsPreferred subId (some network) }

/-- `isLTE`. -/
def Radio.isLTE (r : Radio) (network : Int) : Bool :=
  r.getRafFromNetworkType network &&& (r.rafLTE ||| r.rafLTECA) != 0

/-- `getLowerNetwork`. -/
def NetworkPhone.getLowerNetwork (p : NetworkPhone) : Int :=
  p.settings.nsLowNet.getD networkModeWcdmaPref

/-- `isAirplaneModeOn`. -/
def NetworkPhone.isAirplaneModeOn (p : NetworkPhone) : Bool :=
  p.settings.airplaneModeOn != 0

/-- `changeNetwork`. -/
def NetworkPhone.changeNetwork (p : NetworkPhone) (subId newNetwork : Int) : NetworkPhone :=
  if p.accepts then
    { p with settings.preferredNetworkMode :=
        Function.update p.settings.preferredNetworkMode subId (some newNetwork) }
  else p

/-- `stopSelf`. -/
def NetworkPhone.stopSelf (p : NetworkPhone) : NetworkPhone :=
  { p with switcher := .stopped }

/-- The running service waits for its next callback. -/
def NetworkPhone.waitFor (p : NetworkPhone) (unlockObserver : Bool) (waiting : Waiting) :
    NetworkPhone :=
  { p with switcher := .running unlockObserver waiting }

/-- `changeNetwork` to the saved mode and `stopSelf`, the end of every way through
`handleConnection`. -/
def NetworkPhone.restore (p : NetworkPhone) (subId : Int) : NetworkPhone :=
  let p' := p.changeNetwork subId (p.getOriginalNetwork subId)
  { p' with lowered := if p.accepts then p.lowered.filter (· ≠ subId) else p.lowered }.stopSelf

/-- `changeNetwork` to the lower mode. -/
def NetworkPhone.lower (p : NetworkPhone) (subId : Int) : NetworkPhone :=
  let p' := p.changeNetwork subId p.getLowerNetwork
  { p' with lowered :=
      if p'.settings.preferredNetworkMode subId = p.settings.preferredNetworkMode subId then p.lowered
      else subId :: p.lowered }

/-- `handleConnection`. -/
def NetworkPhone.handleConnection (p : NetworkPhone) (unlockObserver : Bool) (subId : Int) :
    NetworkPhone :=
  if p.isAirplaneModeOn then p.waitFor unlockObserver (.airplane subId false)
  else if p.hasSignal subId then p.restore subId
  else p.waitFor unlockObserver (.simService subId)

/-- `switchDown`. -/
def NetworkPhone.switchDown (p : NetworkPhone) (unlockObserver : Bool) (subId : Int) :
    NetworkPhone :=
  if subId < 0 then p.stopSelf
  else
    let currentNetwork := p.getPreferredNetwork subId
    if p.radio.isLTE currentNetwork then
      -- without a telephony manager the callback throws and the process ends
      if !p.telephony.available then { p with switcher := .killed }
      else
        let p := (p.setOriginalNetwork subId currentNetwork).lower subId
        if p.directBoot && unlockObserver then p.waitFor false (.unlock subId)
        else p.handleConnection unlockObserver subId
    else p.stopSelf

/-- `initProcess`. -/
def NetworkPhone.initProcess (p : NetworkPhone) (unlockObserver : Bool) (subId : Int) :
    NetworkPhone :=
  if isSIMLoaded p.telephony subId then p.waitFor unlockObserver (.switchDown subId)
  else p.waitFor unlockObserver (.slot subId)

/-- `onCreate`. -/
def NetworkPhone.onCreate (p : NetworkPhone) : NetworkPhone :=
  if p.getSubID == invalidId then p.waitFor true .subId else p.initProcess true p.getSubID

/-- `NSBootReceiver.onReceive`; a service that runs already is not created again. -/
def NetworkPhone.bootCompleted (p : NetworkPhone) : NetworkPhone :=
  if p.settings.nsService.getD 0 == 1 && p.getSimSlotIndex (-1) != -1 then
    match p.switcher with
    | .running _ _ => p
    | .notStarted | .killed | .stopped => p.onCreate
  else p

/-- `mSimServiceObserver`'s runnable; `unregistered` is what waits when it has unregistered itself
because of an invalid subscription. -/
def NetworkPhone.simServicePoll (p : NetworkPhone) (unlockObserver : Bool) (subId : Int)
    (unregistered : Waiting) : NetworkPhone :=
  if subId == invalidId then p.waitFor unlockObserver unregistered
  -- without a telephony manager the exception is caught and the runnable posted again
  else if p.telephony.available && p.hasSignal subId then p.restore subId
  else p

/-- The runnable of the observer that is registered. -/
def NetworkPhone.poll (p : NetworkPhone) (unlockObserver : Bool) : Waiting → NetworkPhone
  | .subId => if p.getSubID == invalidId then p else p.initProcess unlockObserver p.getSubID
  | .slot subId =>
    if subId == invalidId then p.waitFor unlockObserver .nothing
    else if isSIMLoaded p.telephony subId then p.waitFor unlockObserver (.switchDown subId)
    else p
  | .airplane subId true => p.simServicePoll unlockObserver subId (.airplane subId false)
  | .simService subId => p.simServicePoll unlockObserver subId .nothing
  | .airplane _ false | .switchDown _ | .unlock _ | .nothing => p

/-- One step of the phone; an event that concerns no registered callback changes nothing. -/
def NetworkPhone.step (p : NetworkPhone) : NetworkEvent → NetworkPhone
  | .bootCompleted => p.bootCompleted
  | .reboot => { p with switcher := .notStarted }
  | .kill =>
    match p.switcher with
    | .running _ _ => { p with switcher := .killed }
    | _ => p
  | .restart => if p.switcher = .killed then p.onCreate else p
  | .userUnlocked =>
    match p.switcher with
    | .running unlockObserver (.unlock subId) => p.handleConnection unlockObserver subId
    | .running _ waiting => p.waitFor false waiting
    | _ => p
  | .airplaneMode value => { p with settings.airplaneModeOn := value }
  | .airplaneObserved =>
    match p.switcher with
    | .running unlockObserver (.airplane subId _) =>
      p.waitFor unlockObserver (.airplane subId (!p.isAirplaneModeOn))
    | _ => p
  | .poll =>
    match p.switcher with
    | .running unlockObserver waiting => p.poll unlockObserver waiting
    | _ => p
  | .switchDownDue =>
    match p.switcher with
    | .running unlockObserver (.switchDown subId) => p.switchDown unlockObserver subId
    | _ => p
  | .telephonyChanged telephony => { p with telephony }
  | .preferredWritten subId mode =>
    { p with
      settings.preferredNetworkMode :=
        Function.update p.settings.preferredNetworkMode subId (some mode)
      userMode := Function.update p.userMode subId (some mode)
      lowered := p.lowered.filter (· ≠ subId) }
  | .configured nsService nsSlot nsLowNet =>
    { p with settings := { p.settings with nsService, nsSlot, nsLowNet } }
  | .radioChanged accepts => { p with accepts }

/-- A phone on which the switcher has never run. -/
def NetworkPhone.fresh (radio : Radio) (directBoot : Bool) (telephony : Telephony)
    (settings : NetworkSettings) : NetworkPhone :=
  ⟨radio, directBoot, telephony, settings, true, .notStarted, settings.preferredNetworkMode, []⟩

end Yoshino.Customization
