import Yoshino.Customization.ModemImages
import Yoshino.Customization.SetupWizard
import Yoshino.Library.Runs

/-!
# The reboot of the setup wizard

Several entries of the wizard clear the whole queue, so a reboot that is still queued can be
dropped. In every run without them the reboot that a new configuration owes heads the queue until
the looper takes it, and the wizard does not go on before.
-/

namespace Yoshino.Customization

open Yoshino.Library

/-- While a reboot is owed, the step is none of those that clear the queue for another end: a
broadcast about a missing, broken or locked SIM, `onResume` without a working SIM, a loaded SIM for
which no new configuration is needed or can be set, or a message to a collected activity. -/
def Wizard.keepsReboot (w : Wizard) (e : WizardEvent) : Bool :=
  !w.rebootOwed ||
    match e with
    | .simStateChanged (some .loaded) =>
      w.activity != .receiving || w.device.buildOperation.any fun op =>
        let (d, c, needed) := op.configurator.isNewConfigurationNeeded w.device
        needed && (c.set d).2
    | .simStateChanged (some .permDisabled) | .simStateChanged (some .absent)
    | .simStateChanged (some .cardIoError) | .simStateChanged (some .locked) =>
      w.activity != .receiving
    | .resume => w.activity == .destroyed || w.activity == .collected || isSimWorking w.device
    | .deliver => w.activity != .collected
    | _ => true

/-- The reboot that is owed is due and heads the queue, and nothing has overtaken one. -/
structure Wizard.RebootSafe (w : Wizard) : Prop where
  registered : w.rebootOwed = true → w.activity ≠ .skipped
  head : w.rebootOwed = true → ∃ message rest, w.queue = message :: rest ∧
    message.what = .reboot ∧ message.due ≤ w.now
  notOvertaken : w.overtaken = false

/-- A state in which no reboot is owed and none has been overtaken is safe. -/
theorem Wizard.RebootSafe.of_not_owed {w : Wizard} (howed : w.rebootOwed = false)
    (hovertaken : w.overtaken = false) : w.RebootSafe where
  registered h := absurd (howed.symm.trans h) Bool.false_ne_true
  head h := absurd (howed.symm.trans h) Bool.false_ne_true
  notOvertaken := hovertaken

/-- A later message never gets ahead of a reboot that is due. -/
theorem Wizard.RebootSafe.send {w : Wizard} (h : w.RebootSafe) (delay : Nat) (what : WizardMessage) :
    (w.send delay what).RebootSafe := by
  refine ⟨h.registered, fun howed => ?_, h.notOvertaken⟩
  obtain ⟨message, rest, hqueue, hwhat, hdue⟩ := h.head howed
  have hbehind : ¬ (⟨w.now + delay, what⟩ : QueuedMessage).due < message.due := by
    change ¬ w.now + delay < message.due
    omega
  refine ⟨message, rest.orderedInsert (fun a b => a.due < b.due) ⟨w.now + delay, what⟩, ?_, hwhat,
    hdue⟩
  rw [Wizard.send, hqueue]
  exact List.orderedInsert_of_not_le (r := fun a b : QueuedMessage => a.due < b.due) rest hbehind

/-- The timeout starts behind a reboot that is due. -/
theorem Wizard.RebootSafe.startTimeout {w : Wizard} (h : w.RebootSafe) :
    w.startTimeout.RebootSafe := by
  unfold Wizard.startTimeout
  split
  · exact h
  · exact h.send 120000 .goOn

/-- The timeout changes nothing but the queue. -/
theorem Wizard.startTimeout_eq (w : Wizard) : ∃ queue, w.startTimeout = { w with queue } := by
  unfold startTimeout
  split
  · exact ⟨w.queue, rfl⟩
  · exact ⟨_, rfl⟩

/-- Going on is safe when no reboot is owed. -/
theorem Wizard.RebootSafe.continueSetupWizard {w : Wizard} (h : w.RebootSafe)
    (howed : w.rebootOwed = false) : w.continueSetupWizard.RebootSafe :=
  .of_not_owed howed (by simp [Wizard.continueSetupWizard, h.notOvertaken, howed])

/-- Handling a loaded SIM is safe when no reboot is owed, or when it sets a configuration again. -/
theorem Wizard.RebootSafe.handleConfiguration {w : Wizard} (h : w.RebootSafe)
    (hactivity : w.activity = .receiving)
    (hagain : w.rebootOwed = false ∨ w.device.buildOperation.any (fun op =>
      let (d, c, needed) := op.configurator.isNewConfigurationNeeded w.device
      needed && (c.set d).2) = true) : w.handleConfiguration.RebootSafe := by
  unfold Wizard.handleConfiguration
  cases hbuild : w.device.buildOperation with
  | none =>
    have howed : w.rebootOwed = false := by simpa [hbuild] using hagain
    exact .of_not_owed howed h.notOvertaken
  | some op =>
    rw [hbuild, Option.any_some] at hagain
    dsimp only
    revert hagain
    rcases op.configurator.isNewConfigurationNeeded w.device with ⟨d, c, needed⟩
    intro hagain
    cases needed with
    | true =>
      dsimp only
      cases hset : c.set d with
      | mk d' completed =>
        cases completed with
        | true =>
          refine ⟨fun _ => ?_, fun _ => ⟨⟨w.now + 0, .reboot⟩, [], rfl, rfl, le_rfl⟩, h.notOvertaken⟩
          change w.activity ≠ .skipped
          simp [hactivity]
        | false =>
          have howed : w.rebootOwed = false := by simpa [hset] using hagain
          exact .of_not_owed howed h.notOvertaken
    | false =>
      have howed : w.rebootOwed = false := by simpa using hagain
      exact .of_not_owed howed h.notOvertaken

/-- A broadcast that keeps the owed reboot is safe. -/
theorem Wizard.RebootSafe.onReceive {w : Wizard} (h : w.RebootSafe) (state : IccState)
    (hactivity : w.activity = .receiving)
    (hkeeps : w.keepsReboot (.simStateChanged (some state)) = true) :
    (w.onReceive state).RebootSafe := by
  have htimeout := h.startTimeout
  obtain ⟨queue, heq⟩ := w.startTimeout_eq
  unfold Wizard.onReceive
  rw [heq] at htimeout ⊢
  cases state with
  | loaded =>
    refine htimeout.handleConfiguration hactivity ?_
    simpa [Wizard.keepsReboot, hactivity] using hkeeps
  | permDisabled | absent | cardIoError =>
    refine htimeout.continueSetupWizard ?_
    simpa [Wizard.keepsReboot, hactivity] using hkeeps
  | locked =>
    refine .of_not_owed ?_ h.notOvertaken
    change w.rebootOwed = false
    simpa [Wizard.keepsReboot, hactivity] using hkeeps
  | other => exact htimeout

/-- `onResume` is safe when it keeps the owed reboot. -/
theorem Wizard.RebootSafe.resume {w : Wizard} (h : w.RebootSafe)
    (hkeeps : w.keepsReboot .resume = true) : (w.step .resume).RebootSafe := by
  simp only [Wizard.step]
  split
  · exact h
  next halive =>
    split
    · exact h.startTimeout
    next hworking =>
      push Not at halive
      refine h.continueSetupWizard ?_
      simpa [Wizard.keepsReboot, hworking, halive] using hkeeps

/-- The looper delivers an owed reboot before anything else. -/
theorem Wizard.RebootSafe.deliver {w : Wizard} (h : w.RebootSafe)
    (hkeeps : w.keepsReboot .deliver = true) : (w.step .deliver).RebootSafe := by
  cases howed : w.rebootOwed with
  | true =>
    obtain ⟨message, rest, hqueue, hwhat, hdue⟩ := h.head howed
    have hactivity : w.activity ≠ .collected := by simpa [Wizard.keepsReboot, howed] using hkeeps
    simp only [Wizard.step, hqueue, hdue, if_true, hwhat, Wizard.handleMessage, hactivity, if_false]
    exact .of_not_owed rfl h.notOvertaken
  | false =>
    have hhandled (what : WizardMessage) : (w.handleMessage what).RebootSafe := by
      have hclear : w.clear.RebootSafe := .of_not_owed howed h.notOvertaken
      unfold Wizard.handleMessage
      split
      · exact hclear
      · cases what with
        | goOn => exact hclear.continueSetupWizard howed
        | reboot => exact .of_not_owed rfl h.notOvertaken
    simp only [Wizard.step]
    split
    · split
      · exact hhandled _
      · exact h
    · exact h

/-- A step that keeps the owed reboot is safe. -/
theorem Wizard.RebootSafe.step {w : Wizard} (h : w.RebootSafe) (e : WizardEvent)
    (hkeeps : w.keepsReboot e = true) : (w.step e).RebootSafe := by
  cases e with
  | simStateChanged state =>
    cases state with
    | none => exact h
    | some state =>
      simp only [Wizard.step]
      split
      next hactivity => exact h.onReceive state hactivity hkeeps
      · exact h
  | resume => exact h.resume hkeeps
  | deliver => exact h.deliver hkeeps
  | destroy =>
    simp only [Wizard.step]
    cases hactivity : w.activity with
    | skipped =>
      have howed : w.rebootOwed = false :=
        Bool.eq_false_iff.mpr fun howed => h.registered howed hactivity
      exact .of_not_owed howed h.notOvertaken
    | receiving => exact ⟨fun _ => Lifecycle.noConfusion, h.head, h.notOvertaken⟩
    | destroyed | collected => exact h
  | collect =>
    simp only [Wizard.step]
    split
    · exact ⟨fun _ => Lifecycle.noConfusion, h.head, h.notOvertaken⟩
    · exact h
  | elapse milliseconds =>
    refine ⟨h.registered, fun howed => ?_, h.notOvertaken⟩
    obtain ⟨message, rest, hqueue, hwhat, hdue⟩ := h.head howed
    exact ⟨message, rest, hqueue, hwhat, Nat.le_add_right_of_le hdue⟩
  | deviceChanged device => exact ⟨h.registered, h.head, h.notOvertaken⟩

/-- The wizard starts with no reboot owed. -/
theorem Wizard.onCreate_safe (d : Device) (now : Nat) : (Wizard.onCreate d now).RebootSafe := by
  unfold onCreate
  dsimp only
  split <;> exact .of_not_owed rfl rfl

/-- In every run whose steps keep an owed reboot, the reboot stays queued until it is handled and
the wizard never goes on before. -/
theorem Wizard.reboot_not_dropped (d : Device) (now : Nat) (events : List WizardEvent)
    (hkeeps : StepsMeet Wizard.step (fun w e => w.keepsReboot e = true) (onCreate d now) events) :
    let w := run Wizard.step (onCreate d now) events
    (w.rebootOwed = true → ∃ message ∈ w.queue, message.what = .reboot) ∧ w.overtaken = false := by
  intro w
  have hsafe : w.RebootSafe := run_invariant Wizard.RebootSafe (fun _ e h hkeeps => h.step e hkeeps)
    (onCreate d now) events (onCreate_safe d now) hkeeps
  refine ⟨fun howed => ?_, hsafe.notOvertaken⟩
  obtain ⟨message, rest, hqueue, hwhat, -⟩ := hsafe.head howed
  exact ⟨message, hqueue ▸ List.mem_cons_self, hwhat⟩

/-- A second broadcast about the loaded SIM replaces the reboot by going on. -/
theorem Wizard.reboot_dropped_by_second_broadcast :
    let once := run Wizard.step (onCreate .plainModem 0) [.simStateChanged (some .loaded)]
    let twice := once.step (.simStateChanged (some .loaded))
    once.queue = [⟨0, .reboot⟩] ∧ twice.rebootOwed = true ∧ twice.queue = [⟨0, .goOn⟩] ∧
      (twice.step .deliver).overtaken = true := by
  decide +kernel

/-- A broadcast about another SIM state and a resume leave the reboot at the head of the queue. -/
theorem Wizard.reboot_survives_resume :
    let w := run Wizard.step (onCreate .plainModem 0)
      [.simStateChanged (some .loaded), .simStateChanged (some .other), .resume, .elapse 200000]
    w.rebootOwed = true ∧ (w.rebootOwed = true → ∃ message ∈ w.queue, message.what = .reboot) ∧
      w.overtaken = false :=
  ⟨by decide +kernel, reboot_not_dropped .plainModem 0
    [.simStateChanged (some .loaded), .simStateChanged (some .other), .resume, .elapse 200000]
    (by decide +kernel)⟩

end Yoshino.Customization
