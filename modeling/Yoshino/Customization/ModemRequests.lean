import Yoshino.Customization.Operations

/-!
# Where a modem command comes from

A command in the log of a step was written by `reApplyModem` for the current modem, by `set` for
the image its operation has found, by the IMS switch for the default modem of the build, or by the
user's pick in the modem activity.
-/

namespace Yoshino.Customization

/-- The step asks for one of the listed images, not for the current modem. -/
def System.asksForImage (s : System) (e : Event) : Bool :=
  match s.modemCall e with
  | some (.set _ _) => true
  | _ => false

/-- The reason a step commands a modem. -/
inductive System.Requests (s : System) (e : Event) (modem : String) : Prop
  /-- The current modem is written again. -/
  | reApply (hcall : s.modemCall e = some .reApply) (henabled : reApplyEnabled s.device = true)
      (hcurrent : getCurrentModemConfig s.device = some modem) (hne : modem ≠ "")
  /-- An operation sets the image it has found. -/
  | set (op : Operation) (hasks : s.asksForImage e = true) (hset : s.setting e = some op)
      (hchanged : anythingChangedSinceLastEvaluation s.device = true)
      (hmodem : op.configurator.mModem = modem) (hne : modem ≠ "")
      (havailable : modem ∈ s.device.platform.modemDir.configurations)
      (hcurrent : getCurrentModemConfig s.device ≠ some modem)
  /-- The IMS switch returns to the default modem. -/
  | imsOff (hasks : s.asksForImage e = true) (hmodem : modemForImsOff s.device = some modem)
      (havailable : modem ∈ s.device.platform.modemDir.configurations)
  /-- The user picks a modem. -/
  | pick (activity : Nat) (name : String) (a : ModemActivity) (hasks : s.asksForImage e = true)
      (he : e = .modemPick activity name) (hpicked : s.picked activity name = some (a, modem))
      (havailable : modem ∈ a.switcher.getAvailableModemConfigurations s.device)

/-- A configurator only asks for the image it has found, and only with a changed key. -/
theorem Configurator.modemCall_eq_some {c : Configurator} {d : Device} {call : ModemCall}
    (h : c.modemCall d = some call) :
    anythingChangedSinceLastEvaluation d = true ∧ c.mModem ≠ "" ∧ call = .set {} c.mModem := by
  unfold modemCall at h
  split at h
  next htest =>
    simp only [Bool.and_eq_true, bne_iff_ne, ne_eq] at htest
    exact ⟨htest.1.1, htest.1.2, (Option.some.inj h).symm⟩
  next => simp at h

/-- A step that commands a modem through a switcher does so for one of three reasons. -/
private theorem set_requests {s : System} {e : Event} {switcher : ModemSwitcher} {modem : String}
    (hcall : s.modemCall e = some (.set switcher modem))
    (havailable : modem ∈ switcher.getAvailableModemConfigurations s.device)
    (hcurrent : getCurrentModemConfig s.device ≠ some modem) : s.Requests e modem := by
  have hasks : s.asksForImage e = true := by rw [System.asksForImage, hcall]
  have hims (h : imsOffCall s.device = some (.set switcher modem)) : s.Requests e modem := by
    obtain ⟨found, hfound, heq⟩ := Option.map_eq_some_iff.mp h
    obtain ⟨rfl, rfl⟩ := ModemCall.set.inj heq
    exact .imsOff hasks hfound havailable
  have hset (op : Operation) (hsetting : s.setting e = some op)
      (h : op.configurator.modemCall s.device = some (.set switcher modem)) :
      s.Requests e modem := by
    obtain ⟨hchanged, hne, heq⟩ := Configurator.modemCall_eq_some h
    obtain ⟨rfl, rfl⟩ := ModemCall.set.inj heq
    exact .set op hasks hsetting hchanged rfl hne havailable hcurrent
  cases e with
  | carrierConfigChanged | bootCompleted =>
    rcases hmain : s.main with _ | _ | _ | _ | _ <;> simp only [System.modemCall, hmain] at hcall
    · split at hcall
      · exact hims hcall
      · simp at hcall
    all_goals simp at hcall
  | imsPreference change =>
    rcases hmain : s.main with _ | _ | _ | _ | _ <;> simp only [System.modemCall, hmain] at hcall
    · split at hcall
      · exact hims hcall
      · simp at hcall
    all_goals simp at hcall
  | reApplyPreference apply =>
    rcases hmain : s.main with _ | _ | _ | _ | _ <;> simp only [System.modemCall, hmain] at hcall
    · split at hcall <;> simp at hcall
    all_goals simp at hcall
  | workerStep =>
    rcases hworker : s.worker with _ | _ | _ | _ <;>
      simp [System.modemCall, hworker] at hcall
  | homeClick dialog =>
    rcases hmain : s.main with _ | _ | _ | _ | _ <;> cases hdialog : s.dialogs[dialog]? <;>
      simp only [System.modemCall, hmain, hdialog] at hcall
    case idle.some op => exact hset op (by simp [System.setting, hmain, hdialog]) hcall
    all_goals simp at hcall
  | mainStep =>
    rcases hmain : s.main with _ | _ | _ | op | _ <;> simp only [System.modemCall, hmain] at hcall
    case suwNeeded => exact hset op (by simp [System.setting, hmain]) hcall
    all_goals simp at hcall
  | modemPick activity name =>
    obtain ⟨⟨a, found⟩, hfound, heq⟩ := Option.map_eq_some_iff.mp hcall
    obtain ⟨rfl, rfl⟩ := ModemCall.set.inj heq
    exact .pick activity name a hasks rfl hfound havailable
  | _ => simp [System.modemCall] at hcall

/-- Every command a step writes is the command for a modem the step has a reason to ask for. -/
theorem System.step_writes (s : System) (e : Event) {data : List UInt8}
    (h : data ∈ (s.step e).device.modemWrites) :
    ∃ modem, data = changeCommand (getName modem) ∧ s.Requests e modem := by
  cases hboot : e.isReboot with
  | true =>
    cases e with
    | reboot => exact absurd h List.not_mem_nil
    | _ => simp [Event.isReboot] at hboot
  | false =>
    have houtcome := s.step_modem e hboot
    generalize hcall : s.modemCall e = call at houtcome
    cases houtcome with
    | quiet hquiet =>
      rw [hquiet.writes] at h
      exact absurd h List.not_mem_nil
    | set hfresh havailable hcurrent hcommanded hsets =>
      rw [hcommanded.writes] at h
      exact ⟨_, List.mem_singleton.mp h, set_requests hcall havailable hcurrent⟩
    | reApply henabled hcurrent hne hcommanded hsets =>
      rw [hcommanded.writes] at h
      exact ⟨_, List.mem_singleton.mp h, .reApply hcall henabled hcurrent hne⟩

end Yoshino.Customization
