import Yoshino.Customization.Step

/-!
# What a step can do to the modem command unit

Only two functions write MiscTA unit 2405. `System.modemCall` reads off the state which of them,
if any, a step calls and with what; `ModemOutcome` lists what such a call can do to the unit and to
the log. Every statement about pending modem changes is derived from `System.step_modem`.
-/

namespace Yoshino.Customization

/-- The commands in the log, newest first. -/
def Device.modemWrites (d : Device) : List (List UInt8) :=
  d.log.filterMap fun
    | .taWrite unit data => if unit = modemCommandUnit then some data else none
    | .modemSet _ => none

/-- The configurations `setModemConfiguration` has accepted in the log, newest first. -/
def Device.modemSets (d : Device) : List String :=
  d.log.filterMap fun
    | .taWrite _ _ => none
    | .modemSet modem => some modem

/-- A call of one of the functions that write the modem command unit. -/
inductive ModemCall
  | set (switcher : ModemSwitcher) (modem : String)
  | reApply

/-- The unit and what the log says about it are as before. -/
structure Device.ModemQuiet (d d' : Device) : Prop where
  unit : d'.units modemCommandUnit = d.units modemCommandUnit
  writes : d'.modemWrites = d.modemWrites
  sets : d'.modemSets = d.modemSets

/-- A command has been written. -/
structure Device.Commanded (d d' : Device) (modem : String) : Prop where
  unit : d'.units modemCommandUnit = changeCommand (getName modem)
  writes : d'.modemWrites = changeCommand (getName modem) :: d.modemWrites

/-- What a call can do. -/
inductive ModemOutcome (d : Device) : Option ModemCall → Device → Prop
  | quiet {call : Option ModemCall} {d' : Device} (h : d.ModemQuiet d') : ModemOutcome d call d'
  | set {switcher : ModemSwitcher} {modem : String} {d' : Device}
      (hfresh : switcher.mConfigurationSet = false)
      (havailable : modem ∈ switcher.getAvailableModemConfigurations d)
      (hcurrent : getCurrentModemConfig d ≠ some modem)
      (hcommanded : d.Commanded d' modem) (hsets : d'.modemSets = modem :: d.modemSets) :
      ModemOutcome d (some (.set switcher modem)) d'
  | reApply {modem : String} {d' : Device} (henabled : reApplyEnabled d = true)
      (hcurrent : getCurrentModemConfig d = some modem) (hne : modem ≠ "")
      (hcommanded : d.Commanded d' modem) (hsets : d'.modemSets = d.modemSets) :
      ModemOutcome d (some .reApply) d'

/-- Nothing happens to the unit of an unchanged device. -/
theorem Device.ModemQuiet.refl (d : Device) : d.ModemQuiet d :=
  ⟨rfl, rfl, rfl⟩

/-- Quiet changes compose. -/
theorem Device.ModemQuiet.trans {d d' d'' : Device} (h : d.ModemQuiet d') (h' : d'.ModemQuiet d'') :
    d.ModemQuiet d'' :=
  ⟨h'.unit.trans h.unit, h'.writes.trans h.writes, h'.sets.trans h.sets⟩

/-- A quiet change after a call changes nothing about its outcome. -/
theorem ModemOutcome.trans_quiet {d d' d'' : Device} {call : Option ModemCall}
    (h : ModemOutcome d call d') (h' : d'.ModemQuiet d'') : ModemOutcome d call d'' := by
  cases h with
  | quiet h => exact .quiet (h.trans h')
  | set hfresh havailable hcurrent hcommanded hsets =>
    exact .set hfresh havailable hcurrent
      ⟨h'.unit.trans hcommanded.unit, h'.writes.trans hcommanded.writes⟩ (h'.sets.trans hsets)
  | reApply henabled hcurrent hne hcommanded hsets =>
    exact .reApply henabled hcurrent hne
      ⟨h'.unit.trans hcommanded.unit, h'.writes.trans hcommanded.writes⟩ (h'.sets.trans hsets)

/-- A write either fails and leaves the units and the log alone, or is carried out and logged. -/
theorem Device.writeTa_cases (d : Device) (unit : Nat) (data : List UInt8) :
    (∃ rest, d.writeTa unit data = ({ d with taOutcomes := rest }, false)) ∨
      ∃ rest, d.writeTa unit data = ({ d with
        taOutcomes := rest
        units := Function.update d.units unit data
        log := .taWrite unit data :: d.log }, true) := by
  unfold writeTa
  split
  · next rest _ => exact Or.inl ⟨rest, rfl⟩
  · exact Or.inr ⟨_, rfl⟩

/-- A write of another unit is quiet. -/
theorem Device.writeTa_quiet (d : Device) (unit : Nat) (data : List UInt8)
    (hunit : unit ≠ modemCommandUnit) : d.ModemQuiet (d.writeTa unit data).1 := by
  rcases d.writeTa_cases unit data with ⟨rest, h⟩ | ⟨rest, h⟩
  · rw [h]
    exact ⟨rfl, rfl, rfl⟩
  · rw [h]
    refine ⟨Function.update_of_ne hunit.symm _ _, ?_, rfl⟩
    simp [modemWrites, hunit]

/-- A write of the modem command unit fails quietly, or commands the modem and accepts nothing. -/
theorem writeModemToMiscTA_cases (d : Device) (modem : String) :
    (∃ d', writeModemToMiscTA d (getName modem) = (d', false) ∧ d.ModemQuiet d') ∨
      ∃ d', writeModemToMiscTA d (getName modem) = (d', true) ∧ d.Commanded d' modem ∧
        d'.modemSets = d.modemSets := by
  rcases d.writeTa_cases modemCommandUnit (changeCommand (getName modem)) with ⟨rest, h⟩ | ⟨rest, h⟩
  · exact Or.inl ⟨_, h, rfl, rfl, rfl⟩
  · exact Or.inr ⟨_, h, ⟨by simp, by simp [Device.modemWrites]⟩, rfl⟩

/-- `setModemConfiguration` meets its outcome. -/
theorem ModemSwitcher.setModemConfiguration_outcome (switcher : ModemSwitcher) (d : Device)
    (modem : String) :
    ModemOutcome d (some (.set switcher modem)) (switcher.setModemConfiguration d modem).1 := by
  unfold setModemConfiguration
  split
  · exact .quiet (.refl d)
  next hfresh =>
    split
    next havailable =>
      split
      · exact .quiet (.refl d)
      next hcurrent =>
        rcases writeModemToMiscTA_cases d modem with ⟨d', h, hquiet⟩ | ⟨d', h, hcommanded, hsets⟩
        · rw [h]
          exact .quiet hquiet
        · rw [h]
          refine .set (by simpa using hfresh) havailable hcurrent ⟨hcommanded.unit, ?_⟩ ?_
          · exact hcommanded.writes
          · change modem :: d'.modemSets = _
            rw [hsets]
    · exact .quiet (.refl d)

/-- `reApplyModem` meets its outcome. -/
theorem reApplyModem_outcome (d : Device) : ModemOutcome d (some .reApply) (reApplyModem d) := by
  unfold reApplyModem
  split
  · exact .quiet (.refl d)
  next henabled =>
    split
    · exact .quiet (.refl d)
    next modem hcurrent =>
      split
      · exact .quiet (.refl d)
      next hne =>
        have hfota : taFotaInternal ≠ modemCommandUnit := by decide
        rcases writeModemToMiscTA_cases { d with savedConfig := some modem } modem with
          ⟨d', h, hquiet⟩ | ⟨d', h, hcommanded, hsets⟩
        · rw [h]
          exact .quiet ⟨hquiet.unit, hquiet.writes, hquiet.sets⟩
        · rw [h]
          refine ModemOutcome.trans_quiet ?_ (d'.writeTa_quiet _ _ hfota)
          exact .reApply (by simpa using henabled) hcurrent hne
            ⟨hcommanded.unit, hcommanded.writes⟩ hsets

end Yoshino.Customization
