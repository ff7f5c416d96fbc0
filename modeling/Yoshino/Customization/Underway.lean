import Yoshino.Customization.Step

/-!
# What the receivers leave alone

The worker, the main thread, the dialogs and the modem activities are what is under way in the
selector. The receivers and the changes of the phone touch none of it, except that an exception or
a reboot ends all of it.
-/

namespace Yoshino.Customization

/-- What is under way. -/
def System.underway (s : System) : Worker × Main × List Operation × List ModemActivity :=
  (s.worker, s.main, s.dialogs, s.modemActivities)

/-- What was under way still is, or all of it has ended. -/
def System.Undisturbed (s s' : System) : Prop :=
  s'.underway = s.underway ∨ s'.underway = (.idle, .idle, [], [])

/-- The modem activities of an undisturbed system stay or end. -/
theorem System.Undisturbed.modemActivities {s s' : System} (h : s.Undisturbed s') :
    s'.modemActivities = s.modemActivities ∨ s'.modemActivities = [] := by
  simp only [Undisturbed, underway, Prod.mk.injEq] at h
  exact h.imp (·.2.2.2) (·.2.2.2)

/-- The operation after it has decided on a device. -/
def Operation.decided (op : Operation) (d : Device) : Operation :=
  { op with
    configurator := (op.configurator.isNewConfigurationNeeded d).2.1
    evaluated := anythingChangedSinceLastEvaluation d }

/-- What deciding leaves: the device, the decided operation and the answer. -/
theorem System.decide_eq (s : System) (op : Operation) :
    s.decide op =
      ({ s with device := (op.configurator.isNewConfigurationNeeded s.device).1 },
        op.decided s.device, (op.configurator.isNewConfigurationNeeded s.device).2.2) := rfl

/-- `set` of an operation disturbs nothing. -/
theorem System.set_undisturbed (s : System) (op : Operation) : s.Undisturbed (s.set op) := by
  unfold set
  rcases op.configurator.set s.device with ⟨d, completed⟩
  cases completed with
  | true => exact Or.inl rfl
  | false => exact Or.inr rfl

/-- Receiving an event changes nothing but the device. -/
theorem System.receive_eq (s : System) (subscription : Int) :
    ∃ d, (s.receive subscription).1 = { s with device := d } := by
  obtain ⟨subId, h⟩ := s.receive_spec subscription
  rw [h]
  split
  · exact ⟨_, rfl⟩
  · split <;> exact ⟨_, rfl⟩

/-- A changed carrier configuration may ask for an evaluation. -/
theorem System.carrierConfigChanged_eq (s : System) (subscription : Int) :
    ∃ d pending, s.carrierConfigChanged subscription = { s with device := d, pending } := by
  obtain ⟨d, h⟩ := s.receive_eq subscription
  unfold carrierConfigChanged
  revert h
  rcases s.receive subscription with ⟨s', further⟩
  rintro rfl
  cases further with
  | false => exact ⟨d, s.pending, rfl⟩
  | true =>
    dsimp only
    split
    · exact ⟨d, s.pending + 1, rfl⟩
    · exact ⟨d, s.pending, rfl⟩

/-- The end of booting may schedule the job. -/
theorem System.bootCompleted_eq (s : System) (subscription : Int) :
    ∃ d jobScheduled, s.bootCompleted subscription = { s with device := d, jobScheduled } := by
  obtain ⟨d, h⟩ := s.receive_eq subscription
  unfold bootCompleted
  revert h
  rcases s.receive subscription with ⟨s', further⟩
  rintro rfl
  cases further with
  | false => exact ⟨d, s.jobScheduled, rfl⟩
  | true =>
    dsimp only
    split
    · exact ⟨d, true, rfl⟩
    · exact ⟨d, s.jobScheduled, rfl⟩

/-- The IMS switch disturbs nothing. -/
theorem System.imsPreference_underway (s : System) (change : Int) :
    (s.imsPreference change).underway = s.underway := by
  simp only [imsPreference, switchOnIMS]
  repeat' split
  all_goals rfl

/-- The re-apply switch disturbs nothing. -/
theorem System.reApplyPreference_underway (s : System) (apply : Int) :
    (s.reApplyPreference apply).underway = s.underway := by
  unfold reApplyPreference
  repeat' split
  all_goals rfl

/-- Clearing the phone disturbs nothing, unless the write throws. -/
theorem System.masterClear_undisturbed (s : System) : s.Undisturbed s.masterClear := by
  unfold masterClear
  split
  · exact Or.inl rfl
  · exact Or.inr rfl

/-- A receiver runs when the main thread is free. -/
theorem System.whenIdle_undisturbed (s : System) (receiver : System → System)
    (h : s.Undisturbed (receiver s)) : s.Undisturbed (s.whenIdle receiver) := by
  unfold whenIdle
  split
  · exact h
  · exact Or.inl rfl

/-- The steps of the worker, of the activities and of the main thread. -/
def Event.isOwnStep : Event → Bool
  | .evaluate | .workerStep | .homeCreate | .homeClick _ | .suwHandle | .mainStep | .modemCreate
  | .modemPick .. => true
  | _ => false

/-- Every other event leaves undisturbed what is under way. -/
theorem System.react_undisturbed (s : System) {e : Event} (hown : e.isOwnStep = false) :
    s.Undisturbed (s.react e) := by
  cases e with
  | carrierConfigChanged subscription =>
    obtain ⟨d, pending, heq⟩ := s.carrierConfigChanged_eq subscription
    exact s.whenIdle_undisturbed _ (Or.inl (by rw [heq]; rfl))
  | bootCompleted subscription =>
    obtain ⟨d, scheduled, heq⟩ := s.bootCompleted_eq subscription
    exact s.whenIdle_undisturbed _ (Or.inl (by rw [heq]; rfl))
  | imsPreference change =>
    exact s.whenIdle_undisturbed _ (Or.inl (s.imsPreference_underway change))
  | reApplyPreference apply =>
    exact s.whenIdle_undisturbed _ (Or.inl (s.reApplyPreference_underway apply))
  | masterClear => exact s.whenIdle_undisturbed _ s.masterClear_undisturbed
  | dataSubscriptionJob =>
    simp only [react]
    split <;> exact Or.inl rfl
  | processKilled | reboot => exact Or.inr rfl
  | telephonyChanged | csImsChanged | csReApplyModemChanged | userUnlocked => exact Or.inl rfl
  | evaluate | workerStep | homeCreate | homeClick | suwHandle | mainStep | modemCreate | modemPick =>
    simp [Event.isOwnStep] at hown

end Yoshino.Customization
