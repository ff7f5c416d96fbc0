import Yoshino.Library.Concatenation
import Yoshino.Customization.Configurator
import Yoshino.Customization.ModemImages

/-!
# The evaluation key

The key of an evaluation is five version properties and the ICCID of the default subscription, one
after the other with nothing in between. An environment is told apart from the one the key was
stored in unless the boundary between two values has moved.
-/

namespace Yoshino.Customization

open Yoshino.Library

/-- The values the key is built from. -/
def keyComponents (d : Device) : List String :=
  [d.versions.cust, d.versions.custRevision, d.versions.sw, d.versions.swRevision, d.versions.opencs,
    getIccid d.telephony]

/-- The values as lists of characters. -/
def keyWords (d : Device) : List (List Char) :=
  (keyComponents d).map String.toList

theorem keyWords_inj {d₁ d₂ : Device} : keyWords d₁ = keyWords d₂ ↔
    keyComponents d₁ = keyComponents d₂ :=
  List.map_inj_right fun _ _ => String.toList_inj.mp

/-- The key is the concatenation of the values. -/
theorem toList_createCurrentConfigurationKey (d : Device) :
    (createCurrentConfigurationKey d).toList = (keyWords d).flatten := by
  simp [createCurrentConfigurationKey, Versions.key, keyWords, keyComponents]

/-- The device in a second environment, with the key stored in a first one. -/
def Device.withKeyOf (second first : Device) : Device :=
  { second with configKey := (saveConfigurationKey first).configKey }

/-- A change is seen exactly when the concatenations differ. -/
theorem anythingChanged_withKeyOf (first second : Device) :
    anythingChangedSinceLastEvaluation (second.withKeyOf first) = true ↔
      (keyWords first).flatten ≠ (keyWords second).flatten := by
  rw [← toList_createCurrentConfigurationKey, ← toList_createCurrentConfigurationKey, ne_eq,
    String.toList_inj]
  change (createCurrentConfigurationKey second != createCurrentConfigurationKey first) = true ↔ _
  rw [bne_iff_ne, ne_comm, ne_eq]

/-- Of two environments that differ in a value, the second is seen as changed after the key of the
first was stored, exactly when no boundary between two values has moved. -/
theorem changed_environment_seen_iff (first second : Device) :
    (keyComponents first ≠ keyComponents second →
        anythingChangedSinceLastEvaluation (second.withKeyOf first) = true) ↔
      ¬ Shifted (keyWords first) (keyWords second) := by
  have hlength : (keyWords first).length = (keyWords second).length := rfl
  rw [shifted_iff hlength, anythingChanged_withKeyOf, not_and, ne_eq, ne_eq, ne_eq, keyWords_inj]

/-- Customization 1 in revision 2 is taken for customization 12. -/
theorem changed_environment_not_seen :
    let first : Device := { Device.plainModem with versions := ⟨"1", "2", "", "", "", ""⟩ }
    let second : Device := { Device.plainModem with versions := ⟨"12", "", "", "", "", ""⟩ }
    keyComponents first ≠ keyComponents second ∧
      anythingChangedSinceLastEvaluation (second.withKeyOf first) = false := by
  decide +kernel

end Yoshino.Customization
