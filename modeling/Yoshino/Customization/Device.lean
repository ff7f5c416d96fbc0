import Yoshino.Customization.Text

/-!
# The phone the customization selector runs on

The selector reads the modem directory, the modem status file, the telephony services, system
properties and settings, and it writes preferences and MiscTA units. What only an update can
change is a `Platform`; the rest is the state of a `Device`. A MiscTA write may fail: the device
carries the outcomes of the writes to come, and once they are used up every write succeeds.
-/

namespace Yoshino.Customization

/-- `SubscriptionManager.INVALID_SUBSCRIPTION_ID` and `INVALID_SIM_SLOT_INDEX`. -/
def invalidId : Int := -1

/-- `TelephonyManager.getSimState`. -/
inductive SimState
  | unknown
  | absent
  | pinRequired
  | pukRequired
  | networkLocked
  | ready
  | notReady
  | permDisabled
  | cardIoError
  | cardRestricted
  deriving DecidableEq, Repr

/-- What the telephony manager answers about one subscription; null answers are `none`. -/
structure SimParams where
  simOperator : Option String
  simOperatorName : Option String
  subscriberId : Option String
  groupIdLevel1 : Option String
  simSerialNumber : Option String
  deriving DecidableEq, Repr

/-- The telephony and subscription services. -/
structure Telephony where
  /-- Whether the telephony manager is there at all. -/
  available : Bool
  phoneCount : Nat
  defaultDataSubscriptionId : Int
  /-- `SubscriptionManager.isUsableSubIdValue`. -/
  isUsableSubIdValue : Int → Bool
  /-- `getActiveSubscriptionInfoList`. -/
  activeSubscriptions : Option (List Int)
  /-- The SIM behind a subscription. -/
  sim : Int → SimParams
  /-- `SubscriptionManager.getSlotIndex`. -/
  slotIndex : Int → Int
  /-- `getSimState` of a slot. -/
  simState : Int → SimState
  /-- The first of `SubscriptionManager.getSubId(slot)`. -/
  subId : Int → Option Int
  /-- Whether `getSignalStrength` of a subscription has a level other than none. -/
  signal : Int → Bool
  /-- The invalid id is not usable. -/
  invalidId_unusable : isUsableSubIdValue invalidId = false

/-- The directory of modem images below `MODEM_FS_PATH`. -/
structure ModemDir where
  isDirectory : Bool
  /-- `File.list()`; `none` stands for an I/O error. -/
  entries : Option (List String)
  /-- The name of the canonical file of a path below the directory; `none` is an `IOException`. -/
  canonicalName : String → Option String
  /-- Whether a path below the directory exists; a listed link whose target is gone does not. -/
  fileExists : String → Bool
  /-- File names are nonempty and hold no separator. -/
  entry_plain : ∀ names, entries = some names → ∀ name ∈ names, name ≠ "" ∧ '/' ∉ name.toList
  /-- The name of a canonical file holds no separator. -/
  canonical_plain : ∀ path name, canonicalName path = some name → '/' ∉ name.toList

/-- The events of the pull parser over an XML resource. -/
inductive XmlEvent
  | startTag (name : String) (attributes : List (String × String))
  | text (content : String)
  | endTag (name : String)
  deriving DecidableEq, Repr

/-- What a run of the system keeps until the next update. -/
structure Platform where
  java : JavaText
  modemDir : ModemDir
  /-- Whether `/oem/modem-config` is a directory. -/
  oemDirectory : Bool
  /-- The first line of a `modem.conf`: the outer `none` when there is no such file, the inner one
  when it is empty or cannot be read. -/
  confFile : String → Option (Option String)
  /-- `R.xml.service_providers`. -/
  serviceProviders : Option (List XmlEvent)
  /-- `R.xml.configuration_selectors`. -/
  configurationSelectors : Option (List XmlEvent)
  /-- `ro.build.flavor`. -/
  buildFlavor : String
  /-- `StorageManager.isFileEncryptedNativeOrEmulated`. -/
  directBoot : Bool

/-- The modem status file: its first line is `none` when it is empty or cannot be read. -/
structure StatusFile where
  isFile : Bool
  length : Nat
  line : Option String
  deriving DecidableEq, Repr

/-- The version properties the configuration key is built from, and the active customization. -/
structure Versions where
  cust : String
  custRevision : String
  sw : String
  swRevision : String
  opencs : String
  custActive : String
  deriving DecidableEq, Repr

/-- What an observer of the device sees one step do. -/
inductive Effect
  /-- A successful write of a MiscTA unit. -/
  | taWrite (unit : Nat) (data : List UInt8)
  /-- A call of `setModemConfiguration` that returned true. -/
  | modemSet (modemConfig : String)
  deriving DecidableEq, Repr

/-- The phone. -/
structure Device where
  platform : Platform
  status : StatusFile
  telephony : Telephony
  versions : Versions
  /-- The setting `cs_ims`. -/
  csIms : Option Int
  /-- The setting `cs_re_apply_modem`. -/
  csReApplyModem : Option Int
  userUnlocked : Bool
  /-- The property `persist.sys.sim_config_ids`. -/
  simConfigIds : String
  /-- The preference `config_key`. -/
  configKey : Option String
  /-- The preference `saved_config`. -/
  savedConfig : Option String
  /-- The preference `event_subID`. -/
  eventSubId : Option Int
  /-- The preference `initialModem`. -/
  initialModem : Option String
  /-- The MiscTA units. -/
  units : Nat → List UInt8
  /-- Whether the MiscTA writes to come succeed. -/
  taOutcomes : List Bool
  /-- The effects of the current step, newest first. -/
  log : List Effect

/-- Add an effect to the log. -/
def Device.emit (d : Device) (effect : Effect) : Device :=
  { d with log := effect :: d.log }

/-- `MiscTA.write`; `false` stands for the `MiscTaException`. -/
def Device.writeTa (d : Device) (unit : Nat) (data : List UInt8) : Device × Bool :=
  match d.taOutcomes with
  | false :: rest => ({ d with taOutcomes := rest }, false)
  | outcomes =>
    ({ d with
        taOutcomes := outcomes.tail
        units := Function.update d.units unit data
        log := .taWrite unit data :: d.log }, true)

end Yoshino.Customization
