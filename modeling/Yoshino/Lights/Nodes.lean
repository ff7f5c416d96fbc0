import Yoshino.Lights.Light

/-!
# What the writes leave in the nodes

For each group of writes the value last written to a node afterwards: a group sets its own nodes
and keeps the others.
-/

namespace Yoshino.Lights

/-- The LED a node belongs to. -/
def Node.led : Node → Option Led
  | .brightness led | .lutPwm led | .pauseLoMulti led | .pauseHiMulti led | .stepDuration led =>
    some led
  | _ => none

/-- A write that succeeds is the last one to its node. -/
@[simp]
theorem Sysfs.lookup_write_self (files : Sysfs) (accepts : Node → Bool) (node : Node)
    (value : NodeValue) : (files.write accepts node value).1.lookup node =
      if accepts node then some value else files.lookup node := by
  unfold Sysfs.write
  split <;> simp

/-- A write keeps the other nodes. -/
theorem Sysfs.lookup_write_of_ne (files : Sysfs) (accepts : Node → Bool) {node other : Node}
    (value : NodeValue) (h : other ≠ node) :
    (files.write accepts node value).1.lookup other = files.lookup other := by
  unfold Sysfs.write
  split
  · rw [List.lookup_cons, beq_false_of_ne h]
  · rfl

/-- The buffer of `write_lut` holds every number. -/
theorem lut_length (brightness : Int32) : (toString brightness ++ ",0\n").length < 22 := by
  have hdigits {n : Nat} (h : n < 10 ^ 10) : n.repr.length ≤ 10 :=
    (Nat.length_repr_le_iff (by decide)).mpr h
  have hlower := brightness.le_toInt
  have hupper := brightness.toInt_lt
  change (brightness.toInt.repr ++ ",0\n").length < 22
  rw [String.length_append, show ",0\n".length = 3 from rfl]
  cases hvalue : brightness.toInt with
  | ofNat n =>
    rw [hvalue, Int.ofNat_eq_natCast] at hupper
    have hn : n.repr.length ≤ 10 := hdigits (by omega)
    simp only [Int.repr]
    omega
  | negSucc n =>
    have hn : (n + 1).repr.length ≤ 10 := hdigits (by omega)
    simp only [Int.repr, String.length_append, show "-".length = 1 from rfl, Nat.succ_eq_add_one]
    omega

/-- So `write_lut` always writes. -/
theorem Sysfs.writeLut_eq (files : Sysfs) (accepts : Node → Bool) (node : Node)
    (brightness : Int32) :
    files.writeLut accepts node brightness = files.write accepts node (.lut brightness) :=
  if_neg (Nat.not_le.mpr (lut_length brightness))

/-- Setting up one LED keeps every node that is not its own. -/
theorem Sysfs.lookup_handleLedBlinkValues (files : Sysfs) (accepts : Node → Bool) {led : Led}
    (brightness onMS offMS : Int32) {node : Node} (h : node.led ≠ some led) :
    (files.handleLedBlinkValues accepts led brightness onMS offMS).1.lookup node =
      files.lookup node := by
  have hne {own : Node} (hown : own.led = some led) : node ≠ own := by
    rintro rfl
    exact h hown
  simp only [handleLedBlinkValues]
  split
  · rw [lookup_write_of_ne _ _ _ (hne rfl), lookup_write_of_ne _ _ _ (hne rfl),
      lookup_write_of_ne _ _ _ (hne rfl), writeLut_eq, lookup_write_of_ne _ _ _ (hne rfl)]
  · rfl

/-- Setting up an LED that is on sets its duty cycles. -/
theorem Sysfs.lookup_handleLedBlinkValues_lutPwm (files : Sysfs) (accepts : Node → Bool) (led : Led)
    (brightness onMS offMS : Int32) :
    (files.handleLedBlinkValues accepts led brightness onMS offMS).1.lookup (.lutPwm led) =
      if brightness ≠ 0 ∧ accepts (.lutPwm led) then some (.lut brightness)
      else files.lookup (.lutPwm led) := by
  simp only [handleLedBlinkValues]
  by_cases hbrightness : brightness = 0
  · simp [hbrightness]
  · rw [if_pos hbrightness]
    dsimp only
    rw [lookup_write_of_ne _ _ _ (by nofun), lookup_write_of_ne _ _ _ (by nofun),
      lookup_write_of_ne _ _ _ (by nofun), writeLut_eq, lookup_write_self]
    simp [hbrightness]

/-- Blinking keeps every node that is neither an LED's nor one of its own two. -/
theorem Sysfs.lookup_blink (files : Sysfs) (accepts : Node → Bool) (color : Color)
    (onMS offMS : Int32) {node : Node} (hled : node.led = none) (hsync : node ≠ .syncState)
    (hstart : node ≠ .startBlink) :
    (files.blink accepts color onMS offMS).1.lookup node = files.lookup node := by
  have hne (led : Led) : node.led ≠ some led := by simp [hled]
  simp only [blink]
  rw [lookup_write_of_ne _ _ _ hstart, lookup_handleLedBlinkValues _ _ _ _ _ (hne .blue),
    lookup_handleLedBlinkValues _ _ _ _ _ (hne .green),
    lookup_handleLedBlinkValues _ _ _ _ _ (hne .red), lookup_write_of_ne _ _ _ hsync]

/-- Blinking synchronizes the LEDs. -/
theorem Sysfs.lookup_blink_syncState (files : Sysfs) (accepts : Node → Bool) (color : Color)
    (onMS offMS : Int32) :
    (files.blink accepts color onMS offMS).1.lookup .syncState =
      if accepts .syncState then some (.int 1) else files.lookup .syncState := by
  simp only [blink]
  rw [lookup_write_of_ne _ _ _ (by nofun), lookup_handleLedBlinkValues _ _ _ _ _ (by nofun),
    lookup_handleLedBlinkValues _ _ _ _ _ (by nofun), lookup_handleLedBlinkValues _ _ _ _ _ (by nofun),
    lookup_write_self]

/-- Blinking sets the duty cycles of the LEDs that are on. -/
theorem Sysfs.lookup_blink_lutPwm (files : Sysfs) (accepts : Node → Bool) (color : Color)
    (onMS offMS : Int32) (led : Led) :
    (files.blink accepts color onMS offMS).1.lookup (.lutPwm led) =
      if color.component led ≠ 0 ∧ accepts (.lutPwm led) then some (.lut (color.component led))
      else files.lookup (.lutPwm led) := by
  simp only [blink]
  rw [lookup_write_of_ne _ _ _ (by nofun)]
  cases led with
  | red =>
    rw [lookup_handleLedBlinkValues _ _ _ _ _ (by nofun), lookup_handleLedBlinkValues _ _ _ _ _ (by nofun),
      lookup_handleLedBlinkValues_lutPwm, lookup_write_of_ne _ _ _ (by nofun)]
    rfl
  | green =>
    rw [lookup_handleLedBlinkValues _ _ _ _ _ (by nofun), lookup_handleLedBlinkValues_lutPwm,
      lookup_handleLedBlinkValues _ _ _ _ _ (by nofun), lookup_write_of_ne _ _ _ (by nofun)]
    rfl
  | blue =>
    rw [lookup_handleLedBlinkValues_lutPwm, lookup_handleLedBlinkValues _ _ _ _ _ (by nofun),
      lookup_handleLedBlinkValues _ _ _ _ _ (by nofun), lookup_write_of_ne _ _ _ (by nofun)]
    rfl

/-- A solid colour keeps every node but the brightnesses. -/
theorem Sysfs.lookup_solid (files : Sysfs) (accepts : Node → Bool) (color : Color) {node : Node}
    (h : ∀ led, node ≠ .brightness led) :
    (files.solid accepts color).1.lookup node = files.lookup node := by
  simp only [solid]
  split
  · exact lookup_write_of_ne _ _ _ (h .red)
  · split
    · rw [lookup_write_of_ne _ _ _ (h .green), lookup_write_of_ne _ _ _ (h .red)]
    · rw [lookup_write_of_ne _ _ _ (h .blue), lookup_write_of_ne _ _ _ (h .green),
        lookup_write_of_ne _ _ _ (h .red)]

/-- A solid colour reaches every LED when no write fails. -/
theorem Sysfs.lookup_solid_brightness (files : Sysfs) (color : Color) (led : Led) :
    (files.solid (fun _ => true) color).1.lookup (.brightness led) =
      some (.int (color.component led)) := by
  cases led <;> rfl

/-- Showing a state that flashes. -/
theorem Light.setSpeakerLightLocked_flashing (light : Light) (accepts : Node → Bool)
    {state : LightState} (h : state.flashMode ≠ .none) :
    (light.setSpeakerLightLocked accepts state).1 =
      { light with
        mIsBlinking := true
        files := (light.files.blink accepts (scaledColor light.mMaxSingle light.mMaxMix state)
          state.flashOnMs state.flashOffMs).1 } := by
  simp only [Light.setSpeakerLightLocked, if_pos h]

/-- The files after the blinking has been disabled. -/
def Light.stopped (light : Light) (accepts : Node → Bool) : Sysfs :=
  if light.mIsBlinking then (light.files.write accepts .syncState (.int 0)).1 else light.files

/-- Showing a state that does not flash. -/
theorem Light.setSpeakerLightLocked_solid (light : Light) (accepts : Node → Bool)
    {state : LightState} (h : state.flashMode = .none) :
    (light.setSpeakerLightLocked accepts state).1 =
      { light with
        mIsBlinking := false
        files := ((light.stopped accepts).solid accepts
          (scaledColor light.mMaxSingle light.mMaxMix state)).1 } := by
  simp only [Light.setSpeakerLightLocked, if_neg (not_not_intro h), Light.stopped]

/-- Disabling the blinking keeps every node but the synchronization. -/
theorem Light.lookup_stopped (light : Light) (accepts : Node → Bool) {node : Node}
    (h : node ≠ .syncState) : (light.stopped accepts).lookup node = light.files.lookup node := by
  unfold Light.stopped
  split
  · exact Sysfs.lookup_write_of_ne _ _ _ h
  · rfl

/-- Disabling the blinking ends the synchronization if it can. -/
theorem Light.lookup_stopped_syncState (light : Light) (accepts : Node → Bool) :
    (light.stopped accepts).lookup .syncState =
      if light.mIsBlinking ∧ accepts .syncState then some (.int 0)
      else light.files.lookup .syncState := by
  unfold Light.stopped
  cases hblinking : light.mIsBlinking with
  | false => rfl
  | true => simp

/-- The request is for a light that shares the LED. -/
def Request.isSpeaker (r : Request) : Bool :=
  r.type == .battery || r.type == .notifications || r.type == .attention

/-- The service with the state of a request for the LED. -/
def Light.remember (light : Light) (r : Request) : Light :=
  if r.type = .battery then { light with batteryState := r.state }
  else { light with notificationState := r.state }

/-- The state of the LED that wins. -/
def Light.speakerState (light : Light) : LightState :=
  if isLit light.batteryState then light.batteryState else light.notificationState

/-- Remembering a state keeps the modes and the files. -/
theorem Light.remember_frame (light : Light) (r : Request) :
    (light.remember r).mLowPersistenceEnabled = light.mLowPersistenceEnabled ∧
      (light.remember r).mIsBlinking = light.mIsBlinking ∧
      (light.remember r).files = light.files := by
  unfold Light.remember
  split <;> exact ⟨rfl, rfl, rfl⟩

/-- Every request for the LED ends by showing the state that wins. -/
theorem Light.serve_of_isSpeaker (light : Light) {r : Request} (h : r.isSpeaker = true) :
    light.serve r = ((light.remember r).setSpeakerLightLocked r.accepts
      (light.remember r).speakerState).1 := by
  have hwins (light : Light) : light.handleSpeakerBatteryLocked r.accepts =
      light.setSpeakerLightLocked r.accepts light.speakerState := by
    unfold Light.handleSpeakerBatteryLocked Light.speakerState
    split <;> rfl
  obtain ⟨type, state, brightness, accepts⟩ := r
  cases type <;> simp [Request.isSpeaker] at h <;> exact congrArg Prod.fst (hwins _)

end Yoshino.Lights
