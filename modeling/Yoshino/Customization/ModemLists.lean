import Yoshino.Customization.Operations

/-!
# The lists of the modem activities

`ModemSwitcherActivity` asks for the available configurations once and remembers them in its
`ModemSwitcher`. The modem directory only changes at a reboot, which ends every activity; so a
remembered list is always the list of the directory.
-/

namespace Yoshino.Customization

/-- The lists the modem activities remember are those of the modem directory. -/
def System.CachesFresh (s : System) : Prop :=
  ∀ a ∈ s.modemActivities,
    a.switcher.mCachedModemConfigurations = some s.device.platform.modemDir.configurations

/-- Only the modem activity itself changes the activities under way, unless all of them end. -/
theorem System.react_modemActivities (s : System) (e : Event) :
    (s.react e).modemActivities = s.modemActivities ∨ (s.react e).modemActivities = [] ∨
      e = .modemCreate ∨ ∃ activity name, e = .modemPick activity name := by
  have hundisturbed {s' : System} (h : s.Undisturbed s') :
      s'.modemActivities = s.modemActivities ∨ s'.modemActivities = [] ∨
        e = .modemCreate ∨ ∃ activity name, e = .modemPick activity name :=
    h.modemActivities.imp_right Or.inl
  cases hown : e.isOwnStep with
  | false => exact hundisturbed (s.react_undisturbed hown)
  | true =>
    cases e with
    | evaluate =>
      simp only [react, System.evaluate]
      repeat' split
      all_goals exact Or.inl rfl
    | workerStep =>
      refine Or.inl ?_
      rcases hworker : s.worker with _ | op | op | _ <;>
        simp only [react, System.workerStep, hworker, decide_eq]
      · generalize (op.configurator.isNewConfigurationNeeded s.device).2.2 = needed
        cases needed <;> rfl
      · rfl
    | homeCreate =>
      simp only [react, System.homeCreate]
      repeat' split
      · exact Or.inr (Or.inl rfl)
      all_goals exact Or.inl rfl
    | homeClick dialog =>
      simp only [react, System.homeClick]
      split
      · exact hundisturbed (System.set_undisturbed { s with homeEnabled := false } _)
      · exact Or.inl rfl
    | suwHandle =>
      simp only [react, System.suwHandle]
      repeat' split
      · exact Or.inr (Or.inl rfl)
      all_goals exact Or.inl rfl
    | mainStep =>
      rcases hmain : s.main with _ | op | op | op | op <;>
        simp only [react, System.mainStep, hmain, decide_eq]
      · exact Or.inl trivial
      · generalize (op.configurator.isNewConfigurationNeeded s.device).2.2 = needed
        split
        · cases needed <;> exact Or.inl rfl
        · exact Or.inl rfl
      · generalize (op.configurator.isNewConfigurationNeeded s.device).2.2 = needed
        cases needed <;> exact Or.inl rfl
      · have hset := (System.set_undisturbed { s with main := .idle } op).modemActivities
        exact hset.imp_right Or.inl
      · exact Or.inl rfl
    | modemCreate => exact Or.inr (Or.inr (Or.inl rfl))
    | modemPick activity name => exact Or.inr (Or.inr (Or.inr ⟨activity, name, rfl⟩))
    | _ => simp [Event.isOwnStep] at hown

/-- `setModemConfiguration` remembers the list it has asked for. -/
theorem ModemSwitcher.setModemConfiguration_cached (switcher : ModemSwitcher) (d : Device)
    (modem : String) :
    (switcher.setModemConfiguration d modem).2.1.mCachedModemConfigurations =
        switcher.mCachedModemConfigurations ∨
      (switcher.setModemConfiguration d modem).2.1.mCachedModemConfigurations =
        some (switcher.getAvailableModemConfigurations d) := by
  unfold setModemConfiguration
  split
  · exact Or.inl rfl
  · split
    · split
      · exact Or.inr rfl
      · split <;> exact Or.inr rfl
    · exact Or.inr rfl

/-- The modem activity shows the list of the modem directory. -/
private theorem modemCreate_caches {s : System} (h : s.CachesFresh) :
    ∀ a ∈ s.modemCreate.modemActivities,
      a.switcher.mCachedModemConfigurations = some s.device.platform.modemDir.configurations := by
  intro a ha
  simp only [System.modemCreate] at ha
  split at ha
  · split at ha
    · exact h a ha
    · rcases List.mem_cons.mp ha with rfl | ha
      · rfl
      · exact h a ha
  · exact h a ha

/-- A pick leaves the remembered lists alone. -/
private theorem modemPick_caches {s : System} (h : s.CachesFresh) (activity : Nat) (name : String) :
    ∀ a ∈ (s.modemPick activity name).modemActivities,
      a.switcher.mCachedModemConfigurations = some s.device.platform.modemDir.configurations := by
  intro a ha
  unfold System.modemPick at ha
  cases hpicked : s.picked activity name with
  | none =>
    rw [hpicked] at ha
    exact h a ha
  | some pick =>
    obtain ⟨shown, modem⟩ := pick
    rw [hpicked] at ha
    rcases List.mem_or_eq_of_mem_set ha with ha | rfl
    · exact h a ha
    · have hshown : shown ∈ s.modemActivities := by
        unfold System.picked at hpicked
        split at hpicked
        next found _ hget =>
          split at hpicked
          · obtain ⟨rfl, -⟩ := Prod.mk.inj (Option.some.inj hpicked)
            exact List.mem_of_getElem? hget
          · simp at hpicked
        · simp at hpicked
      have hcached := h shown hshown
      rcases shown.switcher.setModemConfiguration_cached s.device modem with hsame | hasked
      · exact hsame.trans hcached
      · rw [hasked, ModemSwitcher.getAvailableModemConfigurations, hcached, Option.getD_some]

/-- Every step keeps the remembered lists those of the modem directory. -/
theorem System.CachesFresh.step {s : System} (h : s.CachesFresh) (e : Event) :
    (s.step e).CachesFresh := by
  intro a ha
  cases hboot : e.isReboot with
  | true =>
    cases e with
    | reboot => exact absurd ha List.not_mem_nil
    | _ => simp [Event.isReboot] at hboot
  | false =>
    have hplatform : (s.step e).device.platform = s.device.platform :=
      congrArg Prod.fst (s.step_installed e hboot)
    rw [hplatform]
    rcases s.clearLog.react_modemActivities e with hsame | hnone | rfl | ⟨activity, name, rfl⟩
    · exact h a (hsame ▸ ha)
    · rw [System.step, hnone] at ha
      exact absurd ha List.not_mem_nil
    · exact modemCreate_caches (s := s.clearLog) h a ha
    · exact modemPick_caches (s := s.clearLog) h activity name a ha

end Yoshino.Customization
