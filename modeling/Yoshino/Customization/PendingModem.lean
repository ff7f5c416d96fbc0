import Yoshino.Customization.ModemCalls
import Yoshino.Customization.ModemImages

/-!
# A pending modem change

`setModemConfiguration` refuses a second change until the phone has been rebooted, but it
remembers the first one in the switcher object, and every entry point makes a new switcher;
`reApplyModem` does not ask at all. A pending change is kept as long as no step reaches a
fresh switcher with another available modem, or `reApplyModem` with another current modem.
-/

namespace Yoshino.Customization

open Yoshino.Library

/-- The call stops before it writes, or asks for the same file. -/
def ModemCall.keeps (d : Device) (modem : String) : ModemCall → Bool
  | .set switcher other =>
    switcher.mConfigurationSet || decide (other ∉ switcher.getAvailableModemConfigurations d) ||
      getCurrentModemConfig d == some other || getName other == getName modem
  | .reApply =>
    !reApplyEnabled d ||
      (getCurrentModemConfig d).all fun current => current == "" || getName current == getName modem

/-- A step before the next reboot whose call, if it makes one, keeps the pending change. -/
def System.keepsPending (modem : String) (s : System) (e : Event) : Bool :=
  !e.isReboot && (s.modemCall e).all fun call => call.keeps s.device modem

/-- An accepted modem is commanded. -/
theorem ModemOutcome.commanded_of_set {d d' : Device} {call : Option ModemCall} {modem : String}
    (h : ModemOutcome d call d') (hlog : d.log = []) (hset : Effect.modemSet modem ∈ d'.log) :
    d'.units modemCommandUnit = changeCommand (getName modem) := by
  have hbefore : d.modemSets = [] := by rw [Device.modemSets, hlog, List.filterMap_nil]
  have hmem : modem ∈ d'.modemSets := List.mem_filterMap.mpr ⟨_, hset, rfl⟩
  cases h with
  | quiet h =>
    rw [h.sets, hbefore] at hmem
    simp at hmem
  | set hfresh havailable hcurrent hcommanded hsets =>
    rw [hsets, hbefore] at hmem
    rw [List.mem_singleton.mp hmem]
    exact hcommanded.unit
  | reApply henabled hcurrent hne hcommanded hsets =>
    rw [hsets, hbefore] at hmem
    simp at hmem

/-- A step that keeps the pending change leaves its command in the unit. -/
theorem System.step_keeps_command (modem : String) (s : System) (e : Event)
    (hunit : s.device.units modemCommandUnit = changeCommand (getName modem))
    (hkeeps : s.keepsPending modem e = true) :
    (s.step e).device.units modemCommandUnit = changeCommand (getName modem) := by
  simp only [keepsPending, Bool.and_eq_true, Bool.not_eq_true'] at hkeeps
  obtain ⟨hboot, hcall⟩ := hkeeps
  have houtcome := s.step_modem e hboot
  generalize s.modemCall e = call at hcall houtcome
  cases houtcome with
  | quiet h => exact h.unit.trans hunit
  | @set switcher other _ hfresh havailable hcurrent hcommanded hsets =>
    -- the call was carried out, so only the last alternative of the condition is left
    have hother : ¬ getCurrentModemConfig s.device = some other := hcurrent
    have hin : other ∈ switcher.getAvailableModemConfigurations s.device := havailable
    simp only [Option.all_some, ModemCall.keeps, hfresh, hin, not_true_eq_false, decide_false,
      Bool.false_or, Bool.or_eq_true, beq_iff_eq, hother, false_or] at hcall
    rw [hcommanded.unit, hcall]
  | @reApply current _ henabled hcurrent hne hcommanded hsets =>
    have hon : reApplyEnabled s.device = true := henabled
    have hnow : getCurrentModemConfig s.device = some current := hcurrent
    simp only [Option.all_some, ModemCall.keeps, hon, hnow, Bool.not_true, Bool.false_or,
      Bool.or_eq_true, beq_iff_eq, hne, false_or] at hcall
    rw [hcommanded.unit, hcall]

/-- Once `setModemConfiguration` has accepted a modem, its command stays in the unit along every
run whose steps keep the pending change. -/
theorem System.pending_modem_kept (s : System) (e : Event) (modem : String) (events : List Event)
    (hset : Effect.modemSet modem ∈ (s.step e).device.log)
    (hkeeps : StepsMeet System.step (fun s e => s.keepsPending modem e = true) (s.step e) events) :
    (run System.step (s.step e) events).device.units modemCommandUnit =
      changeCommand (getName modem) := by
  have hboot : e.isReboot = false := by
    cases e with
    | reboot => exact absurd hset List.not_mem_nil
    | _ => rfl
  exact run_invariant
    (fun s => s.device.units modemCommandUnit = changeCommand (getName modem))
    (step_keeps_command modem) (s.step e) events
    ((s.step_modem e hboot).commanded_of_set rfl hset) hkeeps

/-- The setup wizard sets the IMS modem; the evaluation that follows the carrier configuration
broadcast writes the current modem over it. -/
theorem System.pending_modem_overwritten :
    let set := run step (fresh .plainModem) [.suwHandle, .mainStep, .mainStep]
    let later := run step set
      [.carrierConfigChanged 1, .evaluate, .workerStep, .workerStep, .workerStep]
    Effect.modemSet (modemFsPath ++ "ir51_ir92_ims_tar.mbn") ∈ set.device.log ∧
      later.device.taOutcomes = [] ∧
      later.device.units modemCommandUnit = changeCommand "a_tar.mbn" ∧
      changeCommand "a_tar.mbn" ≠
        changeCommand (getName (modemFsPath ++ "ir51_ir92_ims_tar.mbn")) := by
  decide +kernel

/-- With the re-apply setting off the same evaluation keeps the pending change. -/
theorem System.pending_modem_kept_without_reApply :
    (run step (step (run step (fresh .plainModem) [.csReApplyModemChanged (some 0), .suwHandle, .mainStep])
        .mainStep)
      [.carrierConfigChanged 1, .evaluate, .workerStep, .workerStep, .workerStep]).device.units
        modemCommandUnit =
      changeCommand (getName (modemFsPath ++ "ir51_ir92_ims_tar.mbn")) :=
  pending_modem_kept (run step (fresh .plainModem) [.csReApplyModemChanged (some 0), .suwHandle, .mainStep])
    .mainStep _ [.carrierConfigChanged 1, .evaluate, .workerStep, .workerStep, .workerStep]
    (by decide +kernel) (by decide +kernel)

end Yoshino.Customization
