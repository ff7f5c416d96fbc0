import Yoshino.Customization.ModemRequests
import Yoshino.Customization.SetConfiguration

/-!
# Running with IMS switched off

With the IMS setting off the event receiver does not evaluate the carrier bundle and returns to the
default modem. The other ways into an evaluation do not look at the setting: the job for a changed
data subscription, the reboot dialog, the setup wizard, and `reApplyModem`, which writes whatever
modem is current.
-/

namespace Yoshino.Customization

open Yoshino.Library

/-- Whether an event is the user's own choice of a modem. -/
def Event.isModemPick : Event → Bool
  | .modemPick .. => true
  | _ => false

/-- Whether a step calls `reApplyModem`. -/
def System.reApplies (s : System) (e : Event) : Bool :=
  match s.modemCall e with
  | some .reApply => true
  | _ => false

/-- A `set` is reached only with an unchanged key, or when no image is needed for the variant of
the bundle, or when the image selected for it is a default modem. -/
def System.setsDefault (s : System) (e : Event) : Bool :=
  (s.setting e).all fun op => op.configurator.mBundle.all fun bundle =>
    !anythingChangedSinceLastEvaluation s.device ||
      getModemConfigurationNeeded s.device bundle.modem == "" ||
      isModemDefault (getName (getModemConfiguration s.device bundle.modem))

/-- `reApplyModem` is reached only when it is switched off, or when the current modem is unreadable,
unknown or a default modem. -/
def System.reAppliesDefault (s : System) (e : Event) : Bool :=
  !s.reApplies e || !reApplyEnabled s.device ||
    (getCurrentModemConfig s.device).all fun current =>
      current == "" || isModemDefault (getName current)

/-- An operation that is about to set is under way. -/
theorem System.setting_mem_operations {s : System} {e : Event} {op : Operation}
    (h : s.setting e = some op) : op ∈ s.operations := by
  rw [mem_operations]
  cases e with
  | mainStep =>
    rcases hmain : s.main with _ | _ | _ | found | _ <;> simp only [setting, hmain] at h
    case suwNeeded =>
      obtain rfl := Option.some.inj h
      exact Or.inr (Or.inl (List.mem_singleton_self _))
    all_goals simp at h
  | homeClick dialog =>
    rcases hmain : s.main with _ | _ | _ | _ | _ <;> cases hdialog : s.dialogs[dialog]? <;>
      simp only [setting, hmain, hdialog] at h
    case idle.some found =>
      obtain rfl := Option.some.inj h
      exact Or.inr (Or.inr (List.mem_of_getElem? hdialog))
    all_goals simp at h
  | _ => simp [setting] at h

/-- The default modem of a build is a default modem with a plain name. -/
theorem defaultModemFor_default {build modem : String} (h : defaultModemFor build = some modem) :
    isModemDefault modem = true ∧ modem ≠ "" ∧ '/' ∉ modem.toList := by
  have hlist : ∀ m ∈ getDefaultModems, isModemDefault m = true ∧ m ≠ "" ∧ '/' ∉ m.toList := by
    decide +kernel
  apply hlist
  unfold defaultModemFor at h
  repeat' split at h
  all_goals first | (obtain rfl := Option.some.inj h; simp [getDefaultModems]) | simp at h

/-- What the IMS switch asks for is a default modem. -/
theorem modemForImsOff_default {d : Device} {modem : String} (h : modemForImsOff d = some modem) :
    isModemDefault (getName modem) = true := by
  unfold modemForImsOff at h
  split at h
  · simp at h
  · split at h
    · simp at h
    · obtain ⟨name, hname, rfl⟩ := Option.map_eq_some_iff.mp h
      obtain ⟨hdefault, hne, hplain⟩ := defaultModemFor_default hname
      rw [getName_modemFsPath_append name hne hplain]
      exact hdefault

/-- A step that is not the user's pick commands a default modem, when a `set` and `reApplyModem` are
reached only for default modems. -/
theorem System.requests_default {s : System} (hsound : s.Sound) {e : Event} {modem : String}
    (hpick : e.isModemPick = false) (hset : s.setsDefault e = true)
    (hreApply : s.reAppliesDefault e = true) (h : s.Requests e modem) :
    isModemDefault (getName modem) = true := by
  cases h with
  | reApply hcall henabled hcurrent hne =>
    simpa [reAppliesDefault, reApplies, hcall, henabled, hcurrent, hne] using hreApply
  | set op _ hsetting hchanged hmodem hne havailable hcurrent =>
    rcases (hsound op (setting_mem_operations hsetting)).modem with hempty | ⟨bundle, hbundle, hfound⟩
    · exact absurd (hmodem.symm.trans hempty) hne
    · have hneeded : getModemConfigurationNeeded s.device bundle.modem = modem :=
        hfound.symm.trans hmodem
      obtain ⟨himage, -⟩ := getModemConfigurationNeeded_eq (hneeded ▸ hne)
      rw [← hneeded, himage]
      rw [← hneeded] at hne
      simpa [setsDefault, hsetting, hbundle, hchanged, hne] using hset
  | imsOff _ hmodem havailable => exact modemForImsOff_default hmodem
  | pick activity name a _ he hpicked havailable =>
    rw [he] at hpick
    simp [Event.isModemPick] at hpick

/-- While IMS is switched off, and `set` and `reApplyModem` are reached only for default modems, every
command that is not the user's pick asks for a default modem. -/
theorem System.ims_off_respected (d : Device) (before during : List Event) (e : Event)
    (hoff : StepsMeet System.step
      (fun s e => s.device.csIms = some 0 ∧ s.setsDefault e = true ∧ s.reAppliesDefault e = true)
      (run System.step (fresh d) before) (during ++ [e]))
    (hpick : e.isModemPick = false) :
    ∀ data ∈ (run System.step (fresh d) (before ++ (during ++ [e]))).device.modemWrites,
      ∃ name, data = changeCommand name ∧ isModemDefault name = true := by
  intro data hdata
  rw [run_append, run_concat] at hdata
  obtain ⟨modem, hcommand, hrequest⟩ := System.step_writes _ e hdata
  obtain ⟨-, ⟨-, hset, hreApply⟩, -⟩ := (stepsMeet_append _ during [e]).mp hoff
  have hsound : (run System.step (run System.step (fresh d) before) during).Sound := by
    rw [← run_append]
    exact sound_run d (before ++ during)
  exact ⟨getName modem, hcommand, requests_default hsound hpick hset hreApply hrequest⟩

/-- A phone with two SIM slots whose carrier configuration asks for an IMS modem. -/
def Device.dualSim : Device :=
  { Device.plainModem with
    platform := { Device.plainModem.platform with confFile := fun _ => some (some "ir51_ir92_ims") }
    telephony := { Telephony.single "89" with phoneCount := 2 } }

/-- The data subscription changes with IMS switched off; the job evaluates the new SIM all the same
and the confirmed dialog asks for the IMS image. -/
theorem System.ims_image_despite_ims_off :
    let off := run step (fresh .dualSim) [.bootCompleted (-1), .csImsChanged (some 0)]
    let during := [.telephonyChanged { Telephony.single "90" with phoneCount := 2 },
      .dataSubscriptionJob, .evaluate, .workerStep, .homeCreate, .mainStep, .homeClick 0]
    StepsMeet step (fun s _ => s.device.csIms = some 0) off during ∧
      changeCommand "ir51_ir92_ims_tar.mbn" ∈ (run step off during).device.modemWrites ∧
      isModemDefault "ir51_ir92_ims_tar.mbn" = false := by
  decide +kernel

/-- A phone with two SIM slots that runs an IMS image and whose carrier configuration asks for the
default one. -/
def Device.imsLeftOn : Device :=
  let images := .ofNames ["amss_fsg_maple_tar.mbn", "a_ims_tar.mbn"] (by decide)
  let d := Device.factory images "a_ims_tar.mbn" { Telephony.single "89" with phoneCount := 2 }
  { d with platform := { d.platform with confFile := fun _ => some (some "maple") } }

/-- With IMS switched off, both the broadcast and the dialog for a changed data subscription return
the phone to its default modem. -/
theorem System.default_modem_after_dialog :
    let before := [.bootCompleted (-1), .csImsChanged (some 0)]
    let broadcast := .carrierConfigChanged 1
    let dialog := [.telephonyChanged { Telephony.single "90" with phoneCount := 2 },
      .dataSubscriptionJob, .evaluate, .workerStep, .homeCreate, .mainStep]
    let returned := run step (fresh .imsLeftOn) (before ++ [broadcast])
    let confirmed := run step (fresh .imsLeftOn) (before ++ (broadcast :: dialog ++ [.homeClick 0]))
    returned.device.modemWrites = [changeCommand "amss_fsg_maple_tar.mbn"] ∧
      confirmed.device.modemWrites = [changeCommand "amss_fsg_maple_tar.mbn"] ∧
      ∀ data ∈ confirmed.device.modemWrites,
        ∃ name, data = changeCommand name ∧ isModemDefault name = true := by
  intro before broadcast dialog returned confirmed
  refine ⟨by decide +kernel, by decide +kernel, ?_⟩
  exact ims_off_respected .imsLeftOn before (broadcast :: dialog) (.homeClick 0)
    (by decide +kernel) rfl

end Yoshino.Customization
