import Mathlib.Data.List.Sort
import Yoshino.Customization.CarrierBundle

/-!
# Asking the boot loader for another modem

The modem file system is changed by writing a change command with the name of an image to MiscTA
unit 2405; the boot loader acts on it at the next reboot and reports in the status file.
`setModemConfiguration` writes the command for a chosen image, `reApplyModem` the one for the
current image.
-/

namespace Yoshino.Customization

/-- `MODEM_FS_PATH`. -/
def modemFsPath : String := "/system/etc/customization/modem/"

/-- `SINGLE_MODEM_FS`, the placeholder for a device without modem images. -/
def singleModemFs : String := "single_filesystem"

/-- `MODEM_COMMAND_UNIT`. -/
def modemCommandUnit : Nat := 2405

/-- `TA_FOTA_INTERNAL`. -/
def taFotaInternal : Nat := 2404

/-- `lookupSymlinkTarget`. -/
def lookupSymlinkTarget (dir : ModemDir) (filename : String) : String :=
  (dir.canonicalName filename).getD filename

/-- The two fields of the status file. -/
structure ModemStatusContent where
  success : String
  currentModem : String
  deriving DecidableEq, Repr

/-- `readModemStatusFile`. -/
def readModemStatusFile (status : StatusFile) : Option ModemStatusContent :=
  if !status.isFile || decide (128 < status.length) then none
  else match status.line with
    | none => none
    | some line => match split line with
      | [success, currentModem] => some { success, currentModem }
      | _ => none

/-- The parsed status file. -/
structure ModemStatus where
  success : Bool
  currentModem : String
  deriving DecidableEq, Repr

/-- `readModemAndStatus`. -/
def readModemAndStatus (d : Device) : Option ModemStatus := do
  let content ← readModemStatusFile d.status
  let code ← d.platform.java.parseInt content.success
  return { success := code == 0, currentModem := content.currentModem }

/-- `isModemStatusSuccess`. -/
def isModemStatusSuccess (d : Device) : Bool :=
  (readModemAndStatus d).any (·.success)

/-- `ModemFilter.accept`, with the resolved names of the two reset images. -/
def ModemDir.accept (dir : ModemDir) (fileName : String) : Bool :=
  fileName != lookupSymlinkTarget dir "reset_modemst1" &&
    fileName != lookupSymlinkTarget dir "reset_modemst2" && endsWith fileName "_tar.mbn"

/-- The images of the modem directory, shortest name first. -/
def ModemDir.images (dir : ModemDir) : List String :=
  if dir.isDirectory then
    ((dir.entries.getD []).filter dir.accept).insertionSort fun a b => utf16Length a ≤ utf16Length b
  else []

/-- The modem configurations as `getAvailableModemConfigurations` computes them first. -/
def ModemDir.configurations (dir : ModemDir) : List String :=
  if dir.images = [] then [singleModemFs] else dir.images.map (modemFsPath ++ ·)

/-- The fields of a `ModemSwitcher`. -/
structure ModemSwitcher where
  mCachedModemConfigurations : Option (List String) := none
  mConfigurationSet : Bool := false
  deriving DecidableEq, Repr

/-- `getAvailableModemConfigurations`; the switcher keeps the first answer. -/
def ModemSwitcher.getAvailableModemConfigurations (switcher : ModemSwitcher) (d : Device) :
    List String :=
  switcher.mCachedModemConfigurations.getD d.platform.modemDir.configurations

/-- The switcher after its configurations have been asked for. -/
def ModemSwitcher.cache (switcher : ModemSwitcher) (d : Device) : ModemSwitcher :=
  { switcher with
    mCachedModemConfigurations := some (switcher.getAvailableModemConfigurations d) }

/-- `getCurrentModemConfig`; `none` stands for the `IOException`. -/
def getCurrentModemConfig (d : Device) : Option String :=
  match readModemAndStatus d with
  | none => none
  | some status =>
    if !status.success then none
    else
      let dir := d.platform.modemDir
      let currentModem := lookupSymlinkTarget dir status.currentModem
      if dir.fileExists currentModem then
        if currentModem = "default" then none else some (modemFsPath ++ currentModem)
      else if currentModem = "default" then some singleModemFs
      else some ""

/-- The bytes that ask for an image: two magic bytes, the change command and the file name. -/
def changeCommand (modemFileName : String) : List UInt8 :=
  0xF0 :: 122 :: 1 :: getBytes modemFileName

/-- `writeModemToMiscTA`. -/
def writeModemToMiscTA (d : Device) (modemFileName : String) : Device × Bool :=
  d.writeTa modemCommandUnit (changeCommand modemFileName)

/-- `setModemConfiguration`: the device, the switcher and the result. -/
def ModemSwitcher.setModemConfiguration (switcher : ModemSwitcher) (d : Device)
    (modemConfig : String) : Device × ModemSwitcher × Bool :=
  if switcher.mConfigurationSet then (d, switcher, false)
  else if modemConfig ∈ switcher.getAvailableModemConfigurations d then
    -- an unreadable current configuration is no obstacle
    if getCurrentModemConfig d = some modemConfig then (d, switcher.cache d, false)
    else match writeModemToMiscTA d (getName modemConfig) with
      | (d', true) =>
        (d'.emit (.modemSet modemConfig), { switcher.cache d with mConfigurationSet := true }, true)
      | (d', false) => (d', switcher.cache d, false)
  else (d, switcher.cache d, false)

/-- Whether the setting asks for the current modem to be written again. -/
def reApplyEnabled (d : Device) : Bool :=
  d.csReApplyModem.getD 1 != 0

/-- `reApplyModem`. -/
def reApplyModem (d : Device) : Device :=
  if !reApplyEnabled d then d
  else match getCurrentModemConfig d with
    | none => d
    | some modem =>
      if modem = "" then d
      else match writeModemToMiscTA { d with savedConfig := some modem } (getName modem) with
        | (d', true) => (d'.writeTa taFotaInternal (getBytes "temporary_modem")).1
        | (d', false) => d'

/-- `revertReApplyModem`. -/
def revertReApplyModem (d : Device) : Device :=
  match getCurrentModemConfig d with
  | none => d
  | some modem => if modem = "" then d else (d.writeTa taFotaInternal (getBytes (getName modem))).1

end Yoshino.Customization
