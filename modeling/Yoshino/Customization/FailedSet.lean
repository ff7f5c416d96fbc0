import Yoshino.Customization.Frame
import Yoshino.Customization.SetConfiguration

/-!
# When setting a configuration fails

`Configurator.set` stores the configuration key first and then writes the configuration id, which may
throw, and the modem command, which reports through a result nobody looks at. Whatever fails, the
key is stored, and the next evaluation finds nothing to do.
-/

namespace Yoshino.Customization

/-- A write that `set` requests fails: the one of the configuration id throws, or `setConfiguration`
returns false. -/
def Configurator.requestFails (c : Configurator) (d : Device) : Bool :=
  anythingChangedSinceLastEvaluation d &&
    match c.writeConfigId (saveConfigurationKey d) with
    | (_, false) => true
    | (d', true) => c.mModem != "" && !(setConfiguration d' c.mModem).2

/-- The writes to come succeed, and nothing keeps the modem from being written: there is nothing new
to set, or the configuration id can be written and the modem is available, not the current one and
not one that was tried in vain, and can be written. -/
def Configurator.canSet (c : Configurator) (d : Device) : Bool :=
  !anythingChangedSinceLastEvaluation d ||
    ((c.mConfigId.isNone || d.nextWriteSucceeds) &&
      (c.mModem == "" ||
        (storesModem d c.mModem && ({} : ModemSwitcher).reachesWrite d c.mModem &&
          (if c.mConfigId.isNone then d.taOutcomes else d.taOutcomes.tail).headD true)))

/-- A new configurator for the same bundle finds that a configuration is needed. -/
def Configurator.neededAgain (c : Configurator) (d : Device) : Bool :=
  (({ mBundle := c.mBundle } : Configurator).isNewConfigurationNeeded d).2.2

/-- The write of the configuration id, if there is one. -/
theorem Configurator.writeConfigId_spec (c : Configurator) (d : Device) :
    (c.writeConfigId d).2 = (c.mConfigId.isNone || d.nextWriteSucceeds) ∧
      (c.writeConfigId d).1.taOutcomes =
        if c.mConfigId.isNone then d.taOutcomes else d.taOutcomes.tail := by
  unfold Configurator.writeConfigId
  cases c.mConfigId with
  | none => exact ⟨rfl, rfl⟩
  | some id => exact ⟨d.writeTa_result _ _, d.writeTa_taOutcomes _ _⟩

/-- The result of `setConfiguration` only depends on what the modem functions read. -/
theorem setConfiguration_result {d d' : Device} (hview : d'.modemView = d.modemView)
    (hsaved : d'.savedConfig = d.savedConfig) (modem : String) :
    (setConfiguration d' modem).2 =
      (storesModem d modem && ({} : ModemSwitcher).reachesWrite d modem && d'.nextWriteSucceeds) := by
  have hstores : storesModem d' modem = storesModem d modem := by
    rw [storesModem, storesModem, triedUnsuccessfully_congr hview hsaved]
  simp only [Device.modemView, Prod.mk.injEq] at hview
  have hreaches : ({} : ModemSwitcher).reachesWrite d' modem =
      ({} : ModemSwitcher).reachesWrite d modem := by
    have havailable : ({} : ModemSwitcher).getAvailableModemConfigurations d' =
        ({} : ModemSwitcher).getAvailableModemConfigurations d :=
      congrArg (fun platform : Platform => platform.modemDir.configurations) hview.1
    rw [ModemSwitcher.reachesWrite, ModemSwitcher.reachesWrite, havailable,
      getCurrentModemConfig_congr hview.1 hview.2.1]
  rw [setConfiguration_eq, ← hstores, ← hreaches]
  exact (setConfigurationOn_spec {} d' modem).2

/-- A request fails exactly when the writes cannot all be made. -/
theorem Configurator.requestFails_eq (c : Configurator) (d : Device) :
    c.requestFails d = !c.canSet d := by
  obtain ⟨-, hview, hsaved⟩ := c.writeConfigId_quiet (saveConfigurationKey d)
  obtain ⟨hwritten, houtcomes⟩ := c.writeConfigId_spec (saveConfigurationKey d)
  unfold requestFails canSet
  cases anythingChangedSinceLastEvaluation d with
  | false => rfl
  | true =>
    have hresult := setConfiguration_result (d := d) hview hsaved c.mModem
    rw [Device.nextWriteSucceeds, houtcomes] at hresult
    have hkey : (saveConfigurationKey d).nextWriteSucceeds = d.nextWriteSucceeds := rfl
    rw [← hkey, ← hwritten, Bool.true_and, Bool.not_true, Bool.false_or]
    generalize c.writeConfigId (saveConfigurationKey d) = result at hresult
    obtain ⟨d', - | -⟩ := result
    · rfl
    · dsimp only at hresult ⊢
      rw [hresult, Bool.true_and, Bool.not_or]
      rfl

/-- A write that fails leaves the stored key alone, and the configuration is needed again, exactly
when no write can fail. -/
theorem Configurator.nothing_recorded_iff (c : Configurator) (d : Device) :
    (c.requestFails d = true →
      (c.set d).1.configKey = d.configKey ∧
        (c.neededAgain d = true → c.neededAgain (c.set d).1 = true)) ↔
      c.canSet d = true := by
  rw [c.requestFails_eq d]
  cases hcan : c.canSet d with
  | true => simp
  | false =>
    refine iff_of_false (fun h => ?_) nofun
    obtain ⟨hkey, -⟩ := h rfl
    have hchanged : anythingChangedSinceLastEvaluation d = true := by
      by_contra hsame
      simp [canSet, hsame] at hcan
    have hframe := c.set_frame d
    rw [hchanged, if_pos rfl] at hframe
    have hstored : d.configKey = some (createCurrentConfigurationKey d) :=
      hkey.symm.trans (congrArg Device.configKey hframe)
    simp [anythingChangedSinceLastEvaluation, hstored] at hchanged

/-- The write of the configuration id throws: the key is stored, and nothing is needed any more. -/
theorem Configurator.key_stored_despite_exception :
    let d := { Device.plainModem with taOutcomes := [false] }
    let c : Configurator := { mBundle := some ⟨none, "", "cA"⟩, mConfigId := some "cA", mModem := "" }
    c.requestFails d = true ∧ c.neededAgain d = true ∧ (c.set d).1.configKey ≠ d.configKey ∧
      c.neededAgain (c.set d).1 = false := by
  decide +kernel

end Yoshino.Customization
