import Yoshino.Lights.Nodes

/-!
# The mode flags of the light service

`mLowPersistenceEnabled` and `mIsBlinking` stand for what the panel and the LED were last told, and
decide whether a request has to tell them again. Both are updated whether or not the write succeeds,
so exactly the mode changes that fail make a flag wrong.
-/

namespace Yoshino.Lights

open Yoshino.Library

/-- The flags say what the last successful writes say. -/
structure Light.Mirrors (light : Light) : Prop where
  persistence : light.mLowPersistenceEnabled = true ↔
    light.files.lookup .persistMode = some (.int 1)
  blinking : light.mIsBlinking = false →
    light.files.lookup .syncState = none ∨ light.files.lookup .syncState = some (.int 0)

/-- A backlight request that changes the persistence mode can write it, and a request that stops the
blinking can write that, unless the LED has not been told to blink. -/
def Light.changesMode (light : Light) (r : Request) : Bool :=
  if r.type = .backlight then !light.changesPersistence r || r.accepts .persistMode
  else if r.isSpeaker then
    (light.remember r).speakerState.flashMode != .none || !light.mIsBlinking ||
      r.accepts .syncState || light.files.lookup .syncState == none ||
      light.files.lookup .syncState == some (.int 0)
  else true

/-- The files after the persistence mode of a backlight request. -/
def Light.modeFiles (light : Light) (r : Request) : Sysfs :=
  if light.changesPersistence r then
    (light.files.write r.accepts .persistMode (.int (if r.lpEnabled then 1 else 0))).1
  else light.files

/-- After the mode a backlight request only writes the brightness. -/
theorem Light.lookup_setLightBacklight (light : Light) (r : Request) {node : Node}
    (h : node ≠ .lcd) :
    (light.setLightBacklight r).1.files.lookup node = (light.modeFiles r).lookup node := by
  simp only [Light.setLightBacklight, Light.modeFiles]
  cases light.changesPersistence r with
  | false => exact Sysfs.lookup_write_of_ne _ _ _ h
  | true =>
    simp only [if_true]
    generalize light.files.write r.accepts .persistMode _ = mode
    split
    · exact Sysfs.lookup_write_of_ne _ _ _ h
    · rfl

/-- A backlight request keeps the flags right exactly when the mode it changes is written. -/
theorem Light.Mirrors.setLightBacklight_iff {light : Light} (h : light.Mirrors) (r : Request) :
    (light.setLightBacklight r).1.Mirrors ↔
      (light.changesPersistence r = true → r.accepts .persistMode = true) := by
  have hflag : (light.setLightBacklight r).1.mLowPersistenceEnabled =
    if light.changesPersistence r then r.lpEnabled else light.mLowPersistenceEnabled := rfl
  have hblinking : (light.setLightBacklight r).1.mIsBlinking = false →
      (light.setLightBacklight r).1.files.lookup .syncState = none ∨
        (light.setLightBacklight r).1.files.lookup .syncState = some (.int 0) := by
    rw [light.lookup_setLightBacklight r (by nofun), Light.modeFiles]
    split
    · rw [Sysfs.lookup_write_of_ne _ _ _ (by nofun)]
      exact h.blinking
    · exact h.blinking
  have hmode : (light.setLightBacklight r).1.files.lookup .persistMode = _ :=
    light.lookup_setLightBacklight r nofun
  rw [Light.modeFiles] at hmode
  cases hchanges : light.changesPersistence r with
  | false =>
    refine iff_of_true ⟨?_, hblinking⟩ nofun
    rw [hflag, hmode, hchanges]
    exact h.persistence
  | true =>
    have hdiffers : light.mLowPersistenceEnabled ≠ r.lpEnabled := by
      simpa [Light.changesPersistence] using (Bool.and_eq_true_iff.mp hchanges).2
    rw [hchanges, if_pos rfl] at hflag
    rw [hchanges, if_pos rfl, Sysfs.lookup_write_self] at hmode
    cases haccepts : r.accepts .persistMode with
    | true =>
      refine iff_of_true ⟨?_, hblinking⟩ fun _ => rfl
      rw [hflag, hmode, haccepts]
      cases r.lpEnabled <;> simp
    | false =>
      refine iff_of_false (fun hafter => hdiffers ?_) fun himp => absurd (himp rfl) nofun
      have hsame := hafter.persistence
      rw [hflag, hmode, haccepts, if_neg nofun, ← h.persistence] at hsame
      exact (Bool.eq_iff_iff.mpr hsame).symm

/-- Showing a state keeps the flags right exactly when the blinking it stops is stopped. -/
theorem Light.Mirrors.setSpeakerLightLocked_iff {light : Light} (h : light.Mirrors)
    (accepts : Node → Bool) (state : LightState) :
    (light.setSpeakerLightLocked accepts state).1.Mirrors ↔
      (state.flashMode = .none → light.mIsBlinking = true → accepts .syncState = false →
        light.files.lookup .syncState = none ∨ light.files.lookup .syncState = some (.int 0)) := by
  by_cases hflash : state.flashMode = .none
  · rw [Light.setSpeakerLightLocked_solid _ _ hflash]
    have hmode (color : Color) : ((light.stopped accepts).solid accepts color).1.lookup .persistMode =
        light.files.lookup .persistMode := by
      rw [Sysfs.lookup_solid _ _ _ (by nofun), Light.lookup_stopped _ _ (by nofun)]
    have hsync (color : Color) : ((light.stopped accepts).solid accepts color).1.lookup .syncState =
        (light.stopped accepts).lookup .syncState := Sysfs.lookup_solid _ _ _ (by nofun)
    constructor
    · intro hafter _ hblinking haccepts
      have hstopped := hafter.blinking rfl
      rw [hsync, Light.lookup_stopped_syncState, haccepts, if_neg (by simp)] at hstopped
      exact hstopped
    · intro hstops
      refine ⟨?_, fun _ => ?_⟩
      · rw [hmode]
        exact h.persistence
      · rw [hsync, Light.lookup_stopped_syncState]
        cases hblinking : light.mIsBlinking with
        | false => exact h.blinking hblinking
        | true =>
          cases haccepts : accepts .syncState with
          | true => exact .inr rfl
          | false => exact hstops hflash hblinking haccepts
  · rw [Light.setSpeakerLightLocked_flashing _ _ hflash]
    refine iff_of_true ⟨?_, nofun⟩ fun hnone => absurd hnone hflash
    rw [Sysfs.lookup_blink _ _ _ _ _ rfl (by nofun) (by nofun)]
    exact h.persistence

/-- Remembering a state keeps the flags right. -/
theorem Light.Mirrors.remember {light : Light} (h : light.Mirrors) (r : Request) :
    (light.remember r).Mirrors := by
  obtain ⟨hpersistence, hblinking, hfiles⟩ := light.remember_frame r
  refine ⟨?_, ?_⟩
  · rw [hpersistence, hfiles]
    exact h.persistence
  · rw [hblinking, hfiles]
    exact h.blinking

/-- The button backlight has no mode. -/
theorem Light.Mirrors.setLightButtons {light : Light} (h : light.Mirrors) (accepts : Node → Bool)
    (state : LightState) : (light.setLightButtons accepts state).1.Mirrors := by
  simp only [Light.setLightButtons]
  split
  · exact h
  · refine ⟨?_, ?_⟩
    · rw [Sysfs.lookup_write_of_ne _ _ _ (by nofun)]
      exact h.persistence
    · rw [Sysfs.lookup_write_of_ne _ _ _ (by nofun)]
      exact h.blinking

/-- A request for the backlight. -/
theorem Light.serve_of_backlight (light : Light) {r : Request} (h : r.type = .backlight) :
    light.serve r = (light.setLightBacklight r).1 := by
  simp [Light.serve, Light.setLight, h]

/-- Exactly the requests that can change the mode they need keep the flags right. -/
theorem Light.Mirrors.serve_iff {light : Light} (h : light.Mirrors) (r : Request) :
    (light.serve r).Mirrors ↔ light.changesMode r = true := by
  unfold Light.changesMode
  by_cases hbacklight : r.type = .backlight
  · rw [if_pos hbacklight, light.serve_of_backlight hbacklight, h.setLightBacklight_iff]
    cases light.changesPersistence r <;> simp
  · rw [if_neg hbacklight]
    by_cases hspeaker : r.isSpeaker = true
    · obtain ⟨-, hblinking, hfiles⟩ := light.remember_frame r
      rw [if_pos hspeaker, light.serve_of_isSpeaker hspeaker,
        (h.remember r).setSpeakerLightLocked_iff, hblinking, hfiles]
      cases light.mIsBlinking <;> cases r.accepts .syncState <;> simp [or_assoc, imp_iff_not_or]
    · rw [if_neg hspeaker]
      refine iff_of_true ?_ rfl
      unfold Light.serve Light.setLight
      cases htype : r.type with
      | backlight => exact absurd htype hbacklight
      | battery | notifications | attention => simp [Request.isSpeaker, htype] at hspeaker
      | buttons => exact h.setLightButtons r.accepts r.state
      | keyboard | bluetooth | wifi | unknown value => exact h

/-- While the flags are right, a backlight request whose write succeeds leaves the panel in the mode
it asks for. -/
theorem Light.Mirrors.persistence_retried {light : Light} (h : light.Mirrors) {r : Request}
    (htype : r.type = .backlight) (hfile : light.mHasPersistenceFile = true)
    (haccepts : r.accepts .persistMode = true) :
    (light.serve r).files.lookup .persistMode = some (.int 1) ↔ r.lpEnabled = true := by
  have hafter : (light.serve r).Mirrors := (h.serve_iff r).mpr (by
    simp [Light.changesMode, htype, haccepts])
  have hflag : (light.serve r).mLowPersistenceEnabled = r.lpEnabled := by
    rw [light.serve_of_backlight htype]
    change (if light.changesPersistence r then _ else _) = _
    split
    · rfl
    next hchanges => simpa [Light.changesPersistence, hfile] using hchanges
  rw [← hafter.persistence, hflag]

/-- While the flags are right, a request that shows a solid state and whose write succeeds leaves the
LED not blinking. -/
theorem Light.Mirrors.blinking_retried {light : Light} (h : light.Mirrors) {r : Request}
    (hspeaker : r.isSpeaker = true) (hflash : (light.remember r).speakerState.flashMode = .none)
    (haccepts : r.accepts .syncState = true) :
    (light.serve r).files.lookup .syncState = none ∨
      (light.serve r).files.lookup .syncState = some (.int 0) := by
  rw [light.serve_of_isSpeaker hspeaker]
  have hafter := ((h.remember r).setSpeakerLightLocked_iff r.accepts
    (light.remember r).speakerState).mpr fun _ _ hfails => absurd (haccepts.symm.trans hfails) nofun
  refine hafter.blinking ?_
  rw [Light.setSpeakerLightLocked_solid _ _ hflash]

/-- The service has told the hardware nothing yet. -/
theorem Light.constructed_mirrors (setup : Setup) : (Light.constructed setup).Mirrors :=
  ⟨⟨nofun, nofun⟩, fun _ => .inl rfl⟩

/-- In every state a sequence of requests reaches, whichever writes fail, the flags say what the last
successful writes say and a mode change that failed is made up for by the next request that needs
it, exactly when every request can write the mode it changes. -/
theorem Light.flags_mirror_iff (setup : Setup) (requests : List Request) :
    (∀ first, first <+: requests →
      let light := run Light.serve (.constructed setup) first
      (light.mLowPersistenceEnabled = true ↔ light.files.lookup .persistMode = some (.int 1)) ∧
        (light.mIsBlinking = false →
          light.files.lookup .syncState = none ∨ light.files.lookup .syncState = some (.int 0)) ∧
        (∀ r : Request, r.type = .backlight → light.mHasPersistenceFile = true →
          r.accepts .persistMode = true →
          ((light.serve r).files.lookup .persistMode = some (.int 1) ↔ r.lpEnabled = true)) ∧
        ∀ r : Request, r.isSpeaker = true → (light.remember r).speakerState.flashMode = .none →
          r.accepts .syncState = true →
          (light.serve r).files.lookup .syncState = none ∨
            (light.serve r).files.lookup .syncState = some (.int 0)) ↔
      StepsMeet Light.serve (fun light r => light.changesMode r = true) (.constructed setup)
        requests := by
  rw [stepsMeet_iff_invariant Light.Mirrors (fun _ r h => h.serve_iff r) _ requests
    (Light.constructed_mirrors setup)]
  refine forall₂_congr fun first _ => ⟨?_, fun h => ?_⟩
  · rintro ⟨hpersistence, hblinking, -⟩
    exact ⟨hpersistence, hblinking⟩
  · exact ⟨h.persistence, h.blinking,
      fun _ htype hfile haccepts => h.persistence_retried htype hfile haccepts,
      fun _ hspeaker hflash haccepts => h.blinking_retried hspeaker hflash haccepts⟩

/-- After one failed write the low-persistence request is not retried: the panel stays as it was. -/
theorem Light.failed_mode_not_retried :
    let maxima : Color := ⟨255, 255, 255⟩
    let off : LightState := ⟨0, .none, 0, 0, .user⟩
    let setup : Setup := ⟨255, maxima, maxima, true, true, off, off⟩
    let state : LightState := ⟨0xffffff, .none, 0, 0, .lowPersistence⟩
    let requests : List Request := [⟨.backlight, state, 128, fun node => node != .persistMode⟩,
      ⟨.backlight, state, 128, fun _ => true⟩]
    let light := run Light.serve (.constructed setup) requests
    light.mLowPersistenceEnabled = true ∧ light.files.lookup .persistMode = none := by
  decide +kernel

end Yoshino.Lights
