import Yoshino.Customization.ModemSwitcher

/-!
# Deciding on and setting a configuration

A `Configurator` is built from a carrier bundle. `isNewConfigurationNeeded` compares the stored
configuration key with the one of the current SIM and software and, when they differ, evaluates
the bundle; `set` stores the key and writes what the evaluation found. The IMS switch bypasses the
bundle and asks for the default modem of the build.
-/

namespace Yoshino.Customization

/-- `ModemConfiguration.getModemConfiguration`: the first image with the variant's suffix, else the
first image. -/
def getModemConfiguration (d : Device) (variant : String) : String :=
  let available := d.platform.modemDir.configurations
  (available.find? fun m => endsWith m (variant ++ "_tar.mbn")).getD (available.headD "")

/-- `ModemConfiguration.getModemConfigurationNeeded`. -/
def getModemConfigurationNeeded (d : Device) (variant : String) : String :=
  match getCurrentModemConfig d with
  | none => ""
  | some current =>
    if d.platform.java.equalsIgnoreCase singleModemFs current then ""
    else
      let modemConfiguration := getModemConfiguration d variant
      if modemConfiguration != "" && !d.platform.java.equalsIgnoreCase modemConfiguration current then
        modemConfiguration
      else ""

/-- Whether `setConfiguration` gives up on a modem that failed when it was tried last. -/
def triedUnsuccessfully (d : Device) (config : String) : Bool :=
  !isModemStatusSuccess d && d.savedConfig.getD "" == config

/-- `ModemConfiguration.setConfiguration`. -/
def setConfiguration (d : Device) (config : String) : Device × Bool :=
  if config = "" then (d, false)
  else if triedUnsuccessfully d config then (d, false)
  else
    let (d', _, set) :=
      ({} : ModemSwitcher).setModemConfiguration { d with savedConfig := some config } config
    (d', set)

/-- The fields of a `Configurator`. -/
structure Configurator where
  mBundle : Option Bundle
  mConfigId : Option String := none
  mModem : String := ""
  deriving DecidableEq, Repr

/-- The part of the configuration key that depends on the software only. -/
def Versions.key (v : Versions) : String :=
  v.cust ++ v.custRevision ++ v.sw ++ v.swRevision ++ v.opencs

/-- `createCurrentConfigurationKey`. -/
def createCurrentConfigurationKey (d : Device) : String :=
  d.versions.key ++ getIccid d.telephony

/-- `anythingChangedSinceLastEvaluation`. -/
def anythingChangedSinceLastEvaluation (d : Device) : Bool :=
  createCurrentConfigurationKey d != d.configKey.getD ""

/-- `saveConfigurationKey()`. -/
def saveConfigurationKey (d : Device) : Device :=
  { d with configKey := some (createCurrentConfigurationKey d) }

/-- The key that stands for none. -/
def clearedKey : String := "null"

/-- `clearConfigurationKey`. -/
def clearConfigurationKey (d : Device) : Device :=
  { d with configKey := some clearedKey }

/-- `evaluateCarrierConfigId`, for the ids of a bundle, which are never null. -/
def evaluateCarrierConfigId (d : Device) (id : String) : Option String :=
  if id = d.versions.custActive then none else some id

/-- The configurator after it has evaluated its bundle. -/
def Configurator.evaluate (c : Configurator) (d : Device) : Configurator :=
  match c.mBundle with
  | none => c
  | some bundle =>
    { c with
      mModem := getModemConfigurationNeeded d bundle.modem
      mConfigId := evaluateCarrierConfigId d bundle.configId }

/-- `isNewConfigurationNeeded`: the device, the configurator and the answer. -/
def Configurator.isNewConfigurationNeeded (c : Configurator) (d : Device) :
    Device × Configurator × Bool :=
  if anythingChangedSinceLastEvaluation d then
    let d' := match c.mBundle with
      | none => d
      | some bundle => { d with simConfigIds := bundle.simId.getD "" }
    let c' := c.evaluate d
    (d', c', c'.mConfigId.isSome || c'.mModem != "")
  else (d, c, false)

/-- `TA_AC_VERSION`. -/
def taAcVersion : Nat := 2212

/-- Write the carrier configuration id, if there is one; `false` is the `MiscTaException`. -/
def Configurator.writeConfigId (c : Configurator) (d : Device) : Device × Bool :=
  match c.mConfigId with
  | none => (d, true)
  | some id => d.writeTa taAcVersion (getBytes id)

/-- `set`; `false` when the write of the configuration id threw. -/
def Configurator.set (c : Configurator) (d : Device) : Device × Bool :=
  if anythingChangedSinceLastEvaluation d then
    match c.writeConfigId (saveConfigurationKey d) with
    | (d', false) => (d', false)
    | (d', true) => (if c.mModem = "" then d' else (setConfiguration d' c.mModem).1, true)
  else (d, true)

/-- The default modem of a build, the more specific flavors first. -/
def defaultModemFor (build : String) : Option String :=
  if contains build "maple_dsds" then some "amss_fsg_maple_dsds_tar.mbn"
  else if contains build "maple" then some "amss_fsg_maple_tar.mbn"
  else if contains build "poplar_dsds" then some "amss_fsg_poplar_dsds_tar.mbn"
  else if contains build "poplar" then some "amss_fsg_poplar_tar.mbn"
  else if contains build "lilac" then some "amss_fsg_lilac_tar.mbn"
  else none

/-- The default modem `switchOffIMS` asks for, when the current one is not a default modem. -/
def modemForImsOff (d : Device) : Option String :=
  match getCurrentModemConfig d with
  | none => none
  | some current =>
    if isModemDefault (remove current modemFsPath) then none
    else (defaultModemFor d.platform.buildFlavor).map (modemFsPath ++ ·)

/-- `ImsSwitcher.switchOffIMS`, with `applyModem`. -/
def switchOffIMS (d : Device) : Device :=
  match modemForImsOff d with
  | none => d
  | some modem => (({} : ModemSwitcher).setModemConfiguration d modem).1

end Yoshino.Customization
