import Yoshino.Customization.ModemCalls
import Yoshino.Customization.ModemImages

/-!
# When a modem is set

`setConfiguration` on a fresh `ModemConfiguration` reaches the MiscTA write exactly for an available
image that is not the current one and has not been tried in vain, and then returns what the write
returns. `getModemConfigurationNeeded` decides for itself, with other comparisons, but proposes only
such images.
-/

namespace Yoshino.Customization

/-- The next MiscTA write succeeds. -/
def Device.nextWriteSucceeds (d : Device) : Bool :=
  d.taOutcomes.headD true

/-- A write uses up an outcome, and is carried out and logged if that is a success. -/
theorem Device.writeTa_eq (d : Device) (unit : Nat) (data : List UInt8) :
    d.writeTa unit data =
      (if d.nextWriteSucceeds then
        { d with
          taOutcomes := d.taOutcomes.tail
          units := Function.update d.units unit data
          log := .taWrite unit data :: d.log }
      else { d with taOutcomes := d.taOutcomes.tail }, d.nextWriteSucceeds) := by
  unfold Device.writeTa Device.nextWriteSucceeds
  rcases d.taOutcomes with - | ⟨- | -, rest⟩ <;> rfl

/-- A write returns the next outcome. -/
theorem Device.writeTa_result (d : Device) (unit : Nat) (data : List UInt8) :
    (d.writeTa unit data).2 = d.nextWriteSucceeds := by
  rw [d.writeTa_eq]

/-- The outcomes after a write. -/
theorem Device.writeTa_taOutcomes (d : Device) (unit : Nat) (data : List UInt8) :
    (d.writeTa unit data).1.taOutcomes = d.taOutcomes.tail := by
  rw [d.writeTa_eq]
  split <;> rfl

/-- A write keeps the saved modem, and is logged if it succeeds. -/
theorem Device.writeTa_log (d : Device) (unit : Nat) (data : List UInt8) :
    (d.writeTa unit data).1.savedConfig = d.savedConfig ∧
      (d.writeTa unit data).1.log =
        if d.nextWriteSucceeds then .taWrite unit data :: d.log else d.log := by
  rw [d.writeTa_eq]
  split <;> exact ⟨rfl, rfl⟩

/-- `setModemConfiguration` gets as far as the write. -/
def ModemSwitcher.reachesWrite (switcher : ModemSwitcher) (d : Device) (modem : String) : Bool :=
  !switcher.mConfigurationSet && decide (modem ∈ switcher.getAvailableModemConfigurations d) &&
    getCurrentModemConfig d != some modem

/-- The device after the write of `setModemConfiguration`. -/
def commanded (d : Device) (modem : String) : Device :=
  let written := writeModemToMiscTA d (getName modem)
  if written.2 then written.1.emit (.modemSet modem) else written.1

/-- `setModemConfiguration` writes if it gets as far, and returns whether it has written. -/
theorem ModemSwitcher.setModemConfiguration_eq (switcher : ModemSwitcher) (d : Device)
    (modem : String) :
    (switcher.setModemConfiguration d modem).1 =
        (if switcher.reachesWrite d modem then commanded d modem else d) ∧
      (switcher.setModemConfiguration d modem).2.2 =
        (switcher.reachesWrite d modem && d.nextWriteSucceeds) := by
  have hresult : (writeModemToMiscTA d (getName modem)).2 = d.nextWriteSucceeds :=
    d.writeTa_result _ _
  unfold setModemConfiguration reachesWrite commanded
  cases switcher.mConfigurationSet with
  | true => exact ⟨rfl, rfl⟩
  | false =>
    by_cases havailable : modem ∈ switcher.getAvailableModemConfigurations d
    · by_cases hcurrent : getCurrentModemConfig d = some modem
      · simp [havailable, hcurrent]
      · rw [← hresult]
        rcases writeModemToMiscTA d (getName modem) with ⟨d', - | -⟩ <;> simp [havailable, hcurrent]
    · simp [havailable]

/-- `setConfiguration` of a `ModemConfiguration` with a given switcher. -/
def setConfigurationOn (switcher : ModemSwitcher) (d : Device) (config : String) :
    Device × ModemSwitcher × Bool :=
  if config = "" then (d, switcher, false)
  else if triedUnsuccessfully d config then (d, switcher, false)
  else switcher.setModemConfiguration { d with savedConfig := some config } config

/-- A fresh `ModemConfiguration` has a fresh switcher. -/
theorem setConfiguration_eq (d : Device) (config : String) :
    setConfiguration d config =
      ((setConfigurationOn {} d config).1, (setConfigurationOn {} d config).2.2) := by
  unfold setConfiguration setConfigurationOn
  split
  · rfl
  · split <;> rfl

/-- `setConfiguration` stores the modem. -/
def storesModem (d : Device) (modem : String) : Bool :=
  modem != "" && !triedUnsuccessfully d modem

/-- `setConfiguration` stores the modem before the switcher decides about it. -/
theorem setConfigurationOn_spec (switcher : ModemSwitcher) (d : Device) (modem : String) :
    (setConfigurationOn switcher d modem).1 =
        (if storesModem d modem then
          if switcher.reachesWrite d modem then commanded { d with savedConfig := some modem } modem
          else { d with savedConfig := some modem }
        else d) ∧
      (setConfigurationOn switcher d modem).2.2 =
        (storesModem d modem && switcher.reachesWrite d modem && d.nextWriteSucceeds) := by
  unfold setConfigurationOn storesModem
  by_cases hempty : modem = ""
  · simp [hempty]
  · cases htried : triedUnsuccessfully d modem with
    | true => simp [hempty]
    | false =>
      simp only [hempty, if_false, Bool.false_eq_true, bne_iff_ne, ne_eq, not_false_eq_true,
        Bool.not_false, Bool.and_true, if_true]
      rw [bne_iff_ne.mpr hempty, Bool.true_and]
      exact switcher.setModemConfiguration_eq { d with savedConfig := some modem } modem

/-- There is always a configuration, if only the placeholder. -/
theorem ModemDir.configurations_ne_nil (dir : ModemDir) : dir.configurations ≠ [] := by
  unfold ModemDir.configurations
  split
  · exact List.cons_ne_nil _ _
  next himages => exact fun h => himages (List.map_eq_nil_iff.mp h)

/-- The modem for a variant is available. -/
theorem getModemConfiguration_mem (d : Device) (variant : String) :
    getModemConfiguration d variant ∈ d.platform.modemDir.configurations := by
  simp only [getModemConfiguration]
  obtain ⟨first, rest, hall⟩ := List.exists_cons_of_ne_nil d.platform.modemDir.configurations_ne_nil
  rw [hall]
  cases hfind : (first :: rest).find? fun m => endsWith m (variant ++ "_tar.mbn") with
  | some modem => exact List.mem_of_find?_eq_some hfind
  | none => exact List.mem_cons_self

/-- A modem that is needed is the one for the variant, and not the current one. -/
theorem getModemConfigurationNeeded_eq {d : Device} {variant : String}
    (h : getModemConfigurationNeeded d variant ≠ "") :
    getModemConfigurationNeeded d variant = getModemConfiguration d variant ∧
      ∃ current, getCurrentModemConfig d = some current ∧ getModemConfiguration d variant ≠ current := by
  unfold getModemConfigurationNeeded at h ⊢
  cases hcurrent : getCurrentModemConfig d with
  | none => simp [hcurrent] at h
  | some current =>
    simp only [hcurrent] at h ⊢
    split at h
    · exact absurd rfl h
    next hsingle =>
      split at h
      next hneeded =>
        refine ⟨by simp [hsingle, hneeded], current, rfl, ?_⟩
        rintro rfl
        simp [JavaText.equalsIgnoreCase] at hneeded
      · exact absurd rfl h

/-- There is a current modem only after a successful switch. -/
theorem isModemStatusSuccess_of_current {d : Device} {current : String}
    (h : getCurrentModemConfig d = some current) : isModemStatusSuccess d = true := by
  unfold getCurrentModemConfig at h
  unfold isModemStatusSuccess
  cases hstatus : readModemAndStatus d with
  | none => simp [hstatus] at h
  | some status =>
    cases hsuccess : status.success with
    | false => simp [hstatus, hsuccess] at h
    | true => simp [hsuccess]

/-- What the planner proposes the switcher does not refuse, whatever has been saved: with the same
files `setConfiguration` writes the command for the modem, and returns whether that write succeeds. -/
theorem setConfiguration_of_needed (d : Device) (variant : String)
    (h : getModemConfigurationNeeded d variant ≠ "") (saved : Option String) (outcomes : List Bool) :
    let modem := getModemConfigurationNeeded d variant
    let d' := { d with savedConfig := saved, taOutcomes := outcomes }
    let written := writeModemToMiscTA { d' with savedConfig := some modem } (getName modem)
    triedUnsuccessfully d' modem = false ∧ modem ∈ d'.platform.modemDir.configurations ∧
      getCurrentModemConfig d' ≠ some modem ∧
      setConfiguration d' modem =
        (if written.2 then written.1.emit (.modemSet modem) else written.1, written.2) := by
  intro modem d' written
  obtain ⟨hmodem, current, hcurrent, hne⟩ := getModemConfigurationNeeded_eq h
  have htried : triedUnsuccessfully d' modem = false := by
    have hsuccess : isModemStatusSuccess d' = true := isModemStatusSuccess_of_current hcurrent
    simp [triedUnsuccessfully, hsuccess]
  have hmem : modem ∈ d'.platform.modemDir.configurations := by
    rw [show modem = _ from hmodem]
    exact getModemConfiguration_mem d variant
  have hother : getCurrentModemConfig d' ≠ some modem := by
    have hsame : getCurrentModemConfig d' = some current := hcurrent
    rw [hsame, show modem = _ from hmodem]
    exact fun heq => hne (Option.some.inj heq).symm
  refine ⟨htried, hmem, hother, ?_⟩
  have hstores : storesModem d' modem = true := by
    simp [storesModem, htried, show modem ≠ "" from h]
  have hreaches : ({} : ModemSwitcher).reachesWrite d' modem = true := by
    simp [ModemSwitcher.reachesWrite, ModemSwitcher.getAvailableModemConfigurations, hmem, hother]
  obtain ⟨hdevice, hresult⟩ := setConfigurationOn_spec {} d' modem
  have hwritten : written.2 = d'.nextWriteSucceeds := Device.writeTa_result _ _ _
  rw [setConfiguration_eq, hdevice, hresult, hstores, hreaches, if_pos rfl, if_pos rfl, ← hwritten]
  rfl

/-- On a phone with an IMS image the planner's proposal is written, also after an earlier attempt. -/
theorem setConfiguration_of_needed_ims :
    let modem := modemFsPath ++ "ir51_ir92_ims_tar.mbn"
    getModemConfigurationNeeded .plainModem "ir51_ir92_ims" = modem ∧
      (setConfiguration { Device.plainModem with savedConfig := some modem, taOutcomes := [true] }
        modem).2 = true := by
  have hneeded : getModemConfigurationNeeded .plainModem "ir51_ir92_ims" =
      modemFsPath ++ "ir51_ir92_ims_tar.mbn" := by decide +kernel
  refine ⟨hneeded, ?_⟩
  have hset := (setConfiguration_of_needed .plainModem "ir51_ir92_ims" (by decide +kernel)
    (some (modemFsPath ++ "ir51_ir92_ims_tar.mbn")) [true]).2.2.2
  rw [hneeded] at hset
  exact congrArg Prod.snd hset

end Yoshino.Customization
