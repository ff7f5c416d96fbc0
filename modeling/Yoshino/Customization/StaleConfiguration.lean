import Yoshino.Customization.ModemImages
import Yoshino.Customization.Operations

/-!
# The key and the SIM it stands for

An operation reads the bundle of a SIM, decides, and stores the key of the SIM it finds when it is
done. The stored key stands for the SIM the configuration was computed for as long as the ICCID at
the end is the one the bundle was read with. A decision that finds the key unchanged evaluates
nothing; such an operation only repeats the key, as long as that is still the stored one at the end.
-/

namespace Yoshino.Customization

open Yoshino.Library

/-- The event brings no other software versions. -/
def Event.keepsVersions (versions : Versions) : Event → Bool
  | .reboot _ _ versions' _ => versions' == versions
  | _ => true

/-- If the step stores the key for an operation that has evaluated its bundle, it finds the ICCID that was
there when the bundle was read. If it does so for an operation whose decision found the key unchanged,
it finds that key still stored. -/
def System.storesSameSim (s : System) (e : Event) : Bool :=
  (s.storing e).all fun op =>
    if op.evaluated then getIccid op.builtIn.telephony == getIccid s.device.telephony
    else s.device.configKey == some (createCurrentConfigurationKey s.device)

/-- An operation that stores the key is under way. -/
theorem System.storing_mem_operations {s : System} {e : Event} {op : Operation}
    (h : s.storing e = some op) : op ∈ s.operations := by
  rw [mem_operations]
  cases e with
  | workerStep =>
    rcases hworker : s.worker with _ | _ | found | _ <;> simp only [storing, hworker] at h
    case unneeded =>
      obtain rfl := Option.some.inj h
      exact Or.inl (List.mem_singleton_self _)
    all_goals simp at h
  | mainStep =>
    rcases hmain : s.main with _ | _ | _ | found | found <;> simp only [storing, hmain] at h
    case suwNeeded =>
      split at h
      · obtain rfl := Option.some.inj h
        exact Or.inr (Or.inl (List.mem_singleton_self _))
      · simp at h
    case suwUnneeded =>
      obtain rfl := Option.some.inj h
      exact Or.inr (Or.inl (List.mem_singleton_self _))
    all_goals simp at h
  | homeClick dialog =>
    rcases hmain : s.main with _ | _ | _ | _ | _ <;> cases hdialog : s.dialogs[dialog]? <;>
      simp only [storing, hmain, hdialog] at h
    case idle.some found =>
      split at h
      · obtain rfl := Option.some.inj h
        exact Or.inr (Or.inr (List.mem_of_getElem? hdialog))
      · simp at h
    all_goals simp at h
  | _ => simp [storing] at h

/-- The stored key is the one of the software and the SIM that the operation it stands for was built with,
and the operation has found what there is for that SIM. A key that stands for no operation is the one
from before the run, or the cleared one. -/
structure System.StoredFor (d : Device) (s : System) : Prop where
  software : s.device.versions = d.versions
  sound : s.Sound
  stored : ∀ op, s.stored = some op →
    op.Found ∧ op.builtIn.versions = d.versions ∧
      s.device.configKey = some (createCurrentConfigurationKey op.builtIn)
  unstored : s.stored = none → s.device.configKey = d.configKey ∨ s.device.configKey = some clearedKey

/-- A step that leaves the key and the operation it stands for. -/
theorem System.StoredFor.of_kept {d : Device} {s s' : System} (h : s.StoredFor d)
    (hsoftware : s'.device.versions = d.versions) (hsound : s'.Sound) (hstored : s'.stored = s.stored)
    (hkey : s'.device.configKey = s.device.configKey) : s'.StoredFor d where
  software := hsoftware
  sound := hsound
  stored op hop := by
    rw [hkey]
    exact h.stored op (hstored.symm.trans hop)
  unstored hnone := by
    rw [hkey]
    exact h.unstored (hstored.symm.trans hnone)

/-- The software versions after a step. -/
theorem System.step_versions (s : System) (e : Event)
    (hkeeps : e.keepsVersions s.device.versions = true) :
    (s.step e).device.versions = s.device.versions := by
  cases hboot : e.isReboot with
  | false => exact congrArg (·.2.2) (s.step_installed e hboot)
  | true =>
    cases e with
    | reboot => exact eq_of_beq hkeeps
    | _ => simp [Event.isReboot] at hboot

/-- Storing the key for an operation that has evaluated its bundle makes the key stand for its SIM. -/
theorem System.StoredFor.evaluated {d : Device} {s : System} (h : s.StoredFor d) {e : Event}
    {op : Operation} (hstoring : s.storing e = some op) (hevaluated : op.evaluated = true)
    (hsim : s.storesSameSim e = true) :
    op.Found ∧ op.builtIn.versions = d.versions ∧
      createCurrentConfigurationKey s.device = createCurrentConfigurationKey op.builtIn := by
  have hsound := h.sound op (storing_mem_operations hstoring)
  have hversions : op.builtIn.versions = s.device.versions := congrArg (·.2.2) hsound.installed
  have hiccid : getIccid op.builtIn.telephony = getIccid s.device.telephony := by
    simpa [storesSameSim, hstoring, hevaluated] using hsim
  refine ⟨hsound.found hevaluated, hversions.trans h.software, ?_⟩
  simp [createCurrentConfigurationKey, hversions, hiccid]

/-- A step that stores the key only with the SIM of the bundle, or where it is stored already, keeps the
stored key right. -/
theorem System.StoredFor.step {d : Device} {s : System} (h : s.StoredFor d) {e : Event}
    (hkeeps : e.keepsVersions d.versions = true) (hsim : s.storesSameSim e = true) :
    (s.step e).StoredFor d := by
  have hsoftware : (s.step e).device.versions = d.versions := by
    rw [s.step_versions e (by rw [h.software]; exact hkeeps), h.software]
  have hafter := (s.step_frame e).2
  have hkey := s.step_configKey e
  rw [storedAfter] at hafter
  cases hstoring : s.storing e with
  | some storing =>
    rw [hstoring] at hafter
    rw [hstoring, Option.isSome_some, if_pos rfl] at hkey
    dsimp only [storedBy] at hafter
    cases hevaluated : storing.evaluated with
    | true =>
      rw [hevaluated, if_pos rfl] at hafter
      obtain ⟨hfound, hversions, hcreated⟩ := h.evaluated hstoring hevaluated hsim
      refine ⟨hsoftware, h.sound.step e, fun op hop => ?_, fun hnone => ?_⟩
      · obtain rfl := Option.some.inj (hafter.symm.trans hop)
        exact ⟨hfound, hversions, by rw [hkey, hcreated]⟩
      · cases hafter.symm.trans hnone
    | false =>
      -- the key is stored already, so nothing changes
      rw [hevaluated] at hafter
      have hsame : s.device.configKey = some (createCurrentConfigurationKey s.device) := by
        simpa [storesSameSim, hstoring, hevaluated] using hsim
      exact h.of_kept hsoftware (h.sound.step e) hafter (hkey.trans hsame.symm)
  | none =>
    rw [hstoring] at hafter
    rw [hstoring, Option.isSome_none, if_neg Bool.false_ne_true] at hkey
    dsimp only at hafter
    cases hclears : s.clearsKey e with
    | true =>
      rw [hclears, if_pos rfl] at hafter hkey
      refine ⟨hsoftware, h.sound.step e, fun op hop => ?_, fun _ => Or.inr hkey⟩
      cases hafter.symm.trans hop
    | false =>
      rw [hclears, if_neg Bool.false_ne_true] at hafter hkey
      exact h.of_kept hsoftware (h.sound.step e) hafter hkey

/-- Two keys of one software are equal only for one SIM. -/
theorem iccid_of_key_eq {d d' : Device} (hversions : d.versions = d'.versions)
    (h : createCurrentConfigurationKey d = createCurrentConfigurationKey d') :
    getIccid d.telephony = getIccid d'.telephony := by
  have hlist := congrArg String.toList h
  simp only [createCurrentConfigurationKey, hversions, String.toList_append] at hlist
  exact String.toList_injective (List.append_cancel_left hlist)

/-- A phone whose carrier tables have a configuration for the operator 26201 only. -/
def Device.oneCarrier : Device :=
  { Device.plainModem with
    platform := { Device.plainModem.platform with
      serviceProviders := some
        [.startTag "service_provider_sim_config" [("sim_config_id", "A")],
          .startTag "mcc" [], .text "262", .endTag "mcc",
          .startTag "mnc" [], .text "01", .endTag "mnc"]
      configurationSelectors := some
        [.startTag "configuration" [("config_id", "cA")],
          .startTag "sim_config_id" [], .text "A", .endTag "sim_config_id"] } }

/-- A SIM of another operator. -/
def Telephony.otherCarrier : Telephony :=
  { Telephony.single "90" with
    sim := fun _ => ⟨some "23415", some "", some "234150000000000", none, some "90"⟩ }

/-- The events from the first broadcast to the reboot dialog. -/
private def dialogShown : List Event :=
  [.carrierConfigChanged 1, .evaluate, .workerStep, .homeCreate, .mainStep]

/-- The SIM is changed for the time of the decision: the operation finds the key of the other SIM stored,
evaluates nothing and stores the key of the first SIM, for which nothing has been evaluated. -/
example :
    let device := { Device.oneCarrier with configKey := some "90" }
    let after := run System.step (.fresh device)
      [.carrierConfigChanged 1, .evaluate, .telephonyChanged .otherCarrier, .workerStep,
        .telephonyChanged (.single "89"), .workerStep]
    after.device.configKey = some (createCurrentConfigurationKey after.device) ∧
      getIccid after.device.telephony = "89" ∧ after.stored.isNone = true ∧
      after.device.units taAcVersion = [] ∧
      (getCarrierBundle after.device).map (·.configId) = some "cA" := by
  decide +kernel

end Yoshino.Customization
