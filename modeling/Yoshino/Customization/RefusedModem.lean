import Yoshino.Customization.SetConfiguration
import Yoshino.Library.Runs

/-!
# Refusing a modem as tried in vain

`setConfiguration` refuses a modem that is the saved one while the status file reports no success.
The saved modem is meant to be the last one asked for, but it is stored before the switcher decides
whether to write the command and before the write can fail. Here `ModemConfiguration` objects live
as long as one likes, and the files, the setting and the MiscTA writes differ from call to call.
-/

namespace Yoshino.Customization

open Yoshino.Library

/-- What a call finds. -/
structure CallSetting where
  platform : Platform
  status : StatusFile
  csReApplyModem : Option Int
  taOutcomes : List Bool

/-- The device at a call. -/
def Device.at (d : Device) (setting : CallSetting) : Device :=
  { d with
    platform := setting.platform
    status := setting.status
    csReApplyModem := setting.csReApplyModem
    taOutcomes := setting.taOutcomes }

/-- The two calls that ask for a modem. -/
inductive ModemRequest
  /-- `setConfiguration` of one of the `ModemConfiguration` objects. -/
  | setConfiguration (object : Nat) (modem : String)
  | reApplyModem
  deriving DecidableEq, Repr

/-- The device, and the switchers of the `ModemConfiguration` objects. -/
structure ModemHistory where
  device : Device
  switchers : Nat → ModemSwitcher

/-- No call has been made, and the preferences are empty. -/
def ModemHistory.start (d : Device) : ModemHistory where
  device := { d with savedConfig := none, log := [] }
  switchers _ := {}

/-- One call. -/
def ModemHistory.step (s : ModemHistory) (e : CallSetting × ModemRequest) : ModemHistory :=
  let d := s.device.at e.1
  match e.2 with
  | .setConfiguration object modem =>
    let result := setConfigurationOn (s.switchers object) d modem
    { device := result.1, switchers := Function.update s.switchers object result.2.1 }
  | .reApplyModem => { s with device := reApplyModem d }

/-- The change command for the modem has been written. -/
def ModemHistory.wrote (s : ModemHistory) (modem : String) : Prop :=
  .taWrite modemCommandUnit (changeCommand (getName modem)) ∈ s.device.log

/-- Whether a command has been written can be read off the log. -/
instance (s : ModemHistory) (modem : String) : Decidable (s.wrote modem) :=
  inferInstanceAs (Decidable (_ ∈ _))

/-- `setConfiguration` refuses the modem as tried in vain. -/
def ModemHistory.refuses (s : ModemHistory) (setting : CallSetting) (modem : String) : Bool :=
  modem != "" && triedUnsuccessfully (s.device.at setting) modem

/-- The modem a call stores, and whether the command for it is then written. -/
def ModemHistory.stores (s : ModemHistory) (e : CallSetting × ModemRequest) : Option (String × Bool) :=
  let d := s.device.at e.1
  match e.2 with
  | .setConfiguration object modem =>
    if storesModem d modem then
      some (modem, (s.switchers object).reachesWrite d modem && d.nextWriteSucceeds)
    else none
  | .reApplyModem =>
    if reApplyEnabled d then
      (getCurrentModemConfig d).bind fun modem =>
        if modem = "" then none else some (modem, d.nextWriteSucceeds)
    else none

/-- Every modem a call stores has its command written, by this call or before. -/
def ModemHistory.commands (s : ModemHistory) (e : CallSetting × ModemRequest) : Prop :=
  ∀ modem written, s.stores e = some (modem, written) → written = true ∨ s.wrote modem

/-- The command for the modem in the log after the write of `setModemConfiguration`. -/
theorem commanded_log (d : Device) (modem : String) :
    (commanded d modem).savedConfig = d.savedConfig ∧
      (.taWrite modemCommandUnit (changeCommand (getName modem)) ∈ (commanded d modem).log ↔
        d.nextWriteSucceeds = true ∨
          .taWrite modemCommandUnit (changeCommand (getName modem)) ∈ d.log) := by
  have hresult := d.writeTa_result modemCommandUnit (changeCommand (getName modem))
  obtain ⟨hsaved, hlog⟩ := d.writeTa_log modemCommandUnit (changeCommand (getName modem))
  simp only [commanded, writeModemToMiscTA, hresult]
  cases hnext : d.nextWriteSucceeds <;> rw [hnext] at hlog
  · exact ⟨hsaved, by simp [hlog]⟩
  · exact ⟨hsaved, by simp [Device.emit, hlog]⟩

/-- The command for the current modem in the log after `reApplyModem`. -/
theorem reApplyModem_log {d : Device} {modem : String} (henabled : reApplyEnabled d = true)
    (hcurrent : getCurrentModemConfig d = some modem) (hne : modem ≠ "") :
    (reApplyModem d).savedConfig = some modem ∧
      (.taWrite modemCommandUnit (changeCommand (getName modem)) ∈ (reApplyModem d).log ↔
        d.nextWriteSucceeds = true ∨
          .taWrite modemCommandUnit (changeCommand (getName modem)) ∈ d.log) := by
  have hresult := Device.writeTa_result { d with savedConfig := some modem } modemCommandUnit
    (changeCommand (getName modem))
  obtain ⟨hsaved, hlog⟩ := Device.writeTa_log { d with savedConfig := some modem } modemCommandUnit
    (changeCommand (getName modem))
  simp only [reApplyModem, henabled, Bool.not_true, Bool.false_eq_true, if_false, hcurrent, hne,
    writeModemToMiscTA]
  generalize Device.writeTa { d with savedConfig := some modem } modemCommandUnit
    (changeCommand (getName modem)) = result at hresult hsaved hlog
  obtain ⟨d', accepted⟩ := result
  have haccepted : accepted = d.nextWriteSucceeds := hresult
  have hnext : Device.nextWriteSucceeds { d with savedConfig := some modem } = d.nextWriteSucceeds :=
    rfl
  rw [hnext, ← haccepted] at hlog
  rw [← haccepted]
  cases accepted with
  | false => exact ⟨hsaved, by simp [show d'.log = d.log from hlog]⟩
  | true =>
    obtain ⟨hfotaSaved, hfotaLog⟩ := d'.writeTa_log taFotaInternal (getBytes "temporary_modem")
    refine ⟨hfotaSaved.trans hsaved, iff_of_true ?_ (.inl rfl)⟩
    have hmem : Effect.taWrite modemCommandUnit (changeCommand (getName modem)) ∈ d'.log := by
      rw [show d'.log = _ from hlog]
      exact List.mem_cons_self
    rw [hfotaLog]
    split
    · exact List.mem_cons_of_mem _ hmem
    · exact hmem

/-- What a call does to the saved modem and to the commands for it. -/
theorem ModemHistory.step_spec (s : ModemHistory) (e : CallSetting × ModemRequest) :
    match s.stores e with
    | none => (s.step e).device.savedConfig = s.device.savedConfig ∧
        (s.step e).device.log = s.device.log
    | some (modem, written) => (s.step e).device.savedConfig = some modem ∧
        ((s.step e).wrote modem ↔ written = true ∨ s.wrote modem) := by
  obtain ⟨setting, call⟩ := e
  cases call with
  | setConfiguration object modem =>
    obtain ⟨hdevice, -⟩ := setConfigurationOn_spec (s.switchers object) (s.device.at setting) modem
    simp only [stores, step, wrote, hdevice]
    cases storesModem (s.device.at setting) modem with
    | false => exact ⟨rfl, rfl⟩
    | true =>
      cases (s.switchers object).reachesWrite (s.device.at setting) modem with
      | false => exact ⟨rfl, by simp [Device.at]⟩
      | true => exact commanded_log { s.device.at setting with savedConfig := some modem } modem
  | reApplyModem =>
    have hkeeps (h : reApplyModem (s.device.at setting) = s.device.at setting) :
        (reApplyModem (s.device.at setting)).savedConfig = s.device.savedConfig ∧
          (reApplyModem (s.device.at setting)).log = s.device.log := by
      rw [h]
      exact ⟨rfl, rfl⟩
    simp only [stores, step, wrote]
    cases henabled : reApplyEnabled (s.device.at setting) with
    | false => exact hkeeps (by simp [reApplyModem, henabled])
    | true =>
      cases hcurrent : getCurrentModemConfig (s.device.at setting) with
      | none => exact hkeeps (by simp [reApplyModem, hcurrent])
      | some modem =>
        by_cases hne : modem = ""
        · simp only [if_true, Option.bind_some, hne]
          exact hkeeps (by simp [reApplyModem, hcurrent, hne])
        · simp only [if_true, Option.bind_some, hne, if_false]
          exact reApplyModem_log henabled hcurrent hne

/-- The saved modem has been asked for. -/
def ModemHistory.Asked (s : ModemHistory) : Prop :=
  ∀ modem, s.device.savedConfig = some modem → modem ≠ "" → s.wrote modem

/-- A call that stores a modem stores no empty name. -/
theorem ModemHistory.stores_ne_empty {s : ModemHistory} {e : CallSetting × ModemRequest}
    {modem : String} {written : Bool} (h : s.stores e = some (modem, written)) : modem ≠ "" := by
  obtain ⟨setting, call⟩ := e
  cases call with
  | setConfiguration object other =>
    simp only [stores] at h
    split at h
    next hstores =>
      obtain ⟨rfl, -⟩ := Prod.mk.inj (Option.some.inj h)
      exact bne_iff_ne.mp (Bool.and_eq_true_iff.mp hstores).1
    · exact absurd h nofun
  | reApplyModem =>
    simp only [stores] at h
    split at h
    · obtain ⟨current, -, hcurrent⟩ := Option.bind_eq_some_iff.mp h
      split at hcurrent
      · exact absurd hcurrent nofun
      next hne =>
        obtain ⟨rfl, -⟩ := Prod.mk.inj (Option.some.inj hcurrent)
        exact hne
    · exact absurd h nofun

/-- Exactly the calls that command what they store keep the saved modem asked for. -/
theorem ModemHistory.Asked.step_iff {s : ModemHistory} (h : s.Asked) (e : CallSetting × ModemRequest) :
    (s.step e).Asked ↔ s.commands e := by
  have hspec := s.step_spec e
  unfold Asked commands
  cases hstores : s.stores e with
  | none =>
    rw [hstores] at hspec
    obtain ⟨hsaved, hlog⟩ := hspec
    refine iff_of_true (fun modem hmodem hne => ?_) nofun
    rw [wrote, hlog]
    exact h modem (hsaved ▸ hmodem) hne
  | some stored =>
    obtain ⟨modem, written⟩ := stored
    rw [hstores] at hspec
    obtain ⟨hsaved, hwrote⟩ := hspec
    have hne : modem ≠ "" := stores_ne_empty hstores
    constructor
    · rintro hasked _ _ ⟨⟩
      exact hwrote.mp (hasked modem hsaved hne)
    · intro hcommands other hother _
      obtain rfl : modem = other := Option.some.inj (hsaved.symm.trans hother)
      exact hwrote.mpr (hcommands modem written rfl)

/-- A refusal is justified in every setting exactly when the saved modem has been asked for. -/
theorem ModemHistory.refuses_justified_iff (s : ModemHistory) :
    (∀ setting modem, s.refuses setting modem = true → s.wrote modem) ↔ s.Asked := by
  constructor
  · intro h modem hsaved hne
    -- a status file that cannot be read reports no success
    let setting : CallSetting := ⟨s.device.platform, ⟨false, 0, none⟩, none, []⟩
    refine h setting modem ?_
    simp [refuses, triedUnsuccessfully, isModemStatusSuccess, readModemAndStatus, readModemStatusFile,
      Device.at, setting, hsaved, hne]
  · intro h setting modem hrefuses
    obtain ⟨hne, htried⟩ := Bool.and_eq_true_iff.mp hrefuses
    have hne : modem ≠ "" := bne_iff_ne.mp hne
    have hsaved : s.device.savedConfig.getD "" = modem :=
      beq_iff_eq.mp (Bool.and_eq_true_iff.mp htried).2
    cases hconfig : s.device.savedConfig with
    | none => exact absurd (by simpa [hconfig] using hsaved.symm) hne
    | some saved =>
      obtain rfl : saved = modem := by simpa [hconfig] using hsaved
      exact h saved hconfig hne

/-- In every state a sequence of calls reaches, a modem that `setConfiguration` refuses as tried in
vain has had its command written before, exactly when every call that stores a modem writes its
command or finds it written before. -/
theorem ModemHistory.refusals_justified_iff (d : Device) (calls : List (CallSetting × ModemRequest)) :
    (∀ first, first <+: calls →
      let s := run ModemHistory.step (.start d) first
      ∀ setting modem, s.refuses setting modem = true → s.wrote modem) ↔
      StepsMeet ModemHistory.step ModemHistory.commands (.start d) calls := by
  have hstart : (ModemHistory.start d).Asked := fun _ h => absurd h (by simp [ModemHistory.start])
  rw [stepsMeet_iff_invariant ModemHistory.Asked (fun _ e h => h.step_iff e) _ calls hstart]
  exact forall₂_congr fun first _ => (run ModemHistory.step (.start d) first).refuses_justified_iff

/-- A modem whose command could not be written is refused once the status file reports a failure. -/
theorem ModemHistory.refused_without_attempt :
    let modem := modemFsPath ++ "ir51_ir92_ims_tar.mbn"
    let platform := Device.plainModem.platform
    let setting : CallSetting := ⟨platform, Device.plainModem.status, none, [false]⟩
    let s := run ModemHistory.step (.start .plainModem) [(setting, .setConfiguration 0 modem)]
    s.refuses ⟨platform, ⟨true, 32, some "1,a_tar.mbn"⟩, none, []⟩ modem = true ∧ ¬ s.wrote modem := by
  decide +kernel

end Yoshino.Customization
