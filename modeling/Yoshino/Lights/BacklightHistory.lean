import Mathlib.Data.List.Induction
import Yoshino.Lights.Backlight

/-!
# The panel after a history of requests

The low-persistence brightness is used only by the request that switches the mode on. The brightness
a request leaves behind therefore depends on the mode before it, which is the mode of the last
request: for the same low-persistence request it differs between histories that differ in that mode.
-/

namespace Yoshino.Lights

open Yoshino.Library

/-- A backlight request whose writes succeed. -/
def backlightRequest (lowPersistenceModeBrightness : Int32) (state : LightState) : Request where
  type := .backlight
  state := state
  lowPersistenceModeBrightness := lowPersistenceModeBrightness
  accepts := fun _ => true

/-- The service after a history of backlight requests. -/
def Light.afterBacklight (setup : Setup) (lowPersistenceModeBrightness : Int32)
    (history : List LightState) : Light :=
  run Light.serve (.constructed setup) (history.map (backlightRequest lowPersistenceModeBrightness))

/-- The last request of a history was for low persistence. -/
def endsLowPersistence (history : List LightState) : Bool :=
  history.getLast?.any (·.brightnessMode == .lowPersistence)

theorem endsLowPersistence_concat (history : List LightState) (state : LightState) :
    endsLowPersistence (history ++ [state]) = (state.brightnessMode == .lowPersistence) := by
  simp [endsLowPersistence]

theorem Light.afterBacklight_concat (setup : Setup) (p : Int32) (history : List LightState)
    (state : LightState) : Light.afterBacklight setup p (history ++ [state]) =
      (Light.afterBacklight setup p history).serve (backlightRequest p state) := by
  simp only [Light.afterBacklight, List.map_append, List.map_singleton, run_concat]

/-- What the constructor found does not change. -/
theorem Light.afterBacklight_found (setup : Setup) (p : Int32) (history : List LightState) :
    (Light.afterBacklight setup p history).mBacklightMax = setup.mBacklightMax ∧
      (Light.afterBacklight setup p history).mHasPersistenceFile = setup.mHasPersistenceFile := by
  induction history using List.reverseRecOn with
  | nil => exact ⟨rfl, rfl⟩
  | append_singleton history state ih =>
    rw [Light.afterBacklight_concat, Light.serve_of_backlight _ rfl]
    exact ih

/-- The flag is the mode of the last request. -/
theorem Light.afterBacklight_flag (setup : Setup) (p : Int32) (history : List LightState) :
    (Light.afterBacklight setup p history).mLowPersistenceEnabled =
      (setup.mHasPersistenceFile && endsLowPersistence history) := by
  induction history using List.reverseRecOn with
  | nil => exact (Bool.and_false _).symm
  | append_singleton history state ih =>
    have hfile := (Light.afterBacklight_found setup p history).2
    rw [Light.afterBacklight_concat, Light.serve_of_backlight _ rfl, endsLowPersistence_concat]
    change (if Light.changesPersistence _ _ then (backlightRequest p state).lpEnabled else _) = _
    rw [Light.changesPersistence, hfile, ih]
    cases setup.mHasPersistenceFile with
    | false => rfl
    | true =>
      change (if _ != (state.brightnessMode == .lowPersistence) then _ else _) =
        (state.brightnessMode == .lowPersistence)
      split
      · rfl
      next h => simpa using h

/-- The brightness a backlight request leaves behind. -/
theorem Light.lookup_lcd_afterBacklight (setup : Setup) (p : Int32) (history : List LightState)
    (state : LightState) :
    (Light.afterBacklight setup p (history ++ [state])).files.lookup .lcd =
      some (.int ((Light.constructed setup).lcdBrightness
        (if setup.mHasPersistenceFile = true ∧ state.brightnessMode = .lowPersistence ∧
          endsLowPersistence history = false then p else rgbToBrightness state))) := by
  obtain ⟨hmax, hfile⟩ := Light.afterBacklight_found setup p history
  have hflag := Light.afterBacklight_flag setup p history
  rw [Light.afterBacklight_concat, Light.lookup_lcd _ rfl rfl rfl]
  have hscale (b : Int32) : (Light.afterBacklight setup p history).lcdBrightness b =
      (Light.constructed setup).lcdBrightness b := by
    unfold Light.lcdBrightness
    rw [hmax]
    rfl
  have hmode : (backlightRequest p state).lpEnabled = (state.brightnessMode == .lowPersistence) := rfl
  rw [hscale, Light.requested, Light.changesPersistence, hfile, hflag, hmode]
  by_cases hlow : state.brightnessMode = .lowPersistence
  · simp only [hlow, true_and]
    cases setup.mHasPersistenceFile <;> cases endsLowPersistence history <;> rfl
  · simp only [hlow, false_and, and_false, if_false, beq_eq_false_iff_ne.mpr hlow, Bool.and_false]
    rfl

/-- After two histories that end with the same request the brightness is the same exactly when the
panel has no low-persistence mode, the request is not for it, the last requests before it agree on
it, or the low-persistence brightness and that of the colour scale to the same value. -/
theorem Light.backlight_histories_agree_iff (setup : Setup) (p : Int32)
    (first second : List LightState) (state : LightState) :
    (Light.afterBacklight setup p (first ++ [state])).files.lookup .lcd =
        (Light.afterBacklight setup p (second ++ [state])).files.lookup .lcd ↔
      setup.mHasPersistenceFile = false ∨ state.brightnessMode ≠ .lowPersistence ∨
        endsLowPersistence first = endsLowPersistence second ∨
        (Light.constructed setup).lcdBrightness p =
          (Light.constructed setup).lcdBrightness (rgbToBrightness state) := by
  rw [Light.lookup_lcd_afterBacklight, Light.lookup_lcd_afterBacklight]
  simp only [Option.some.injEq, NodeValue.int.injEq]
  cases setup.mHasPersistenceFile with
  | false => simp
  | true =>
    by_cases hlow : state.brightnessMode = .lowPersistence
    · simp only [hlow, true_and, ne_eq, not_true_eq_false, false_or, Bool.true_eq_false]
      cases endsLowPersistence first <;> cases endsLowPersistence second <;> simp [eq_comm]
    · simp [hlow]

/-- The same low-persistence request a second time turns the panel from 128 to 255. -/
theorem Light.repeated_request_brightens :
    let off : LightState := ⟨0, .none, 0, 0, .user⟩
    let setup : Setup := ⟨255, ⟨255, 255, 255⟩, ⟨255, 255, 255⟩, true, true, off, off⟩
    let state : LightState := ⟨0xffffff, .none, 0, 0, .lowPersistence⟩
    (Light.afterBacklight setup 128 [state]).files.lookup .lcd = some (.int 128) ∧
      (Light.afterBacklight setup 128 [state, state]).files.lookup .lcd = some (.int 255) := by
  decide +kernel

end Yoshino.Lights
