import Yoshino.Library.IntExtraction
import Yoshino.Lights.Light

/-!
# The maxima the constructor reads

The constructor of `Light` reads seven maxima with `readMaxBrightness`. Its first branch compares the
result of `read`, a `bool`, with zero and is never taken, so what is left in the member decides: the
number of the file, what the extraction stores when it fails, or, when the file is missing or blank,
what was there before.
-/

namespace Yoshino.Lights

open Yoshino.Library

/-- The attribute files: what `access` finds, and the text of those that can be opened. -/
structure Attributes where
  present : String → Bool
  contents : String → Option (List UInt8)

/-- The memory of the members that no initializer sets. -/
structure Uninitialized where
  mMaxSingle : Color
  mMaxMix : Color
  batteryState : LightState
  notificationState : LightState

/-- `LED_FILE`. -/
def ledFile (led file : String) : String :=
  "/sys/class/leds/" ++ led ++ "/" ++ file

/-- `LCD_CLASS_BASE` if it exists, else `LCD_CLASS_BASE2`. -/
def Attributes.lcdClassBase (files : Attributes) : String :=
  if files.present "/sys/class/leds/lcd-backlight" then "/sys/class/leds/lcd-backlight"
  else "/sys/class/backlight/panel0-backlight"

/-- `read`: the value afterwards, and the result. -/
def Attributes.read (files : Attributes) (path : String) (value : Int32) : Int32 × Bool :=
  match files.contents path with
  | none => (value, false)
  | some text => extract text value

/-- `readMaxBrightness`: the maximum afterwards. -/
def Attributes.readMaxBrightness (files : Attributes) (file : String)
    (maxBrightness defaultValue : Int32) : Int32 :=
  let (maxBrightness, result) := files.read file maxBrightness
  -- the `bool` is promoted to `int`
  if (if result then 1 else 0 : Int32) < 0 then defaultValue
  else if maxBrightness < 0 then defaultValue
  else maxBrightness

/-- The constructor; without a panel `LOG(FATAL)` aborts. -/
def Light.construct (files : Attributes) (before : Uninitialized) : Option Setup :=
  if !files.present (files.lcdClassBase ++ "/brightness") then none
  else some
    { mBacklightMax := files.readMaxBrightness (files.lcdClassBase ++ "/max_brightness") 0 (-1)
      mMaxSingle :=
        { red := files.readMaxBrightness (ledFile "red" "max_single_brightness")
            before.mMaxSingle.red 0xFF
          green := files.readMaxBrightness (ledFile "green" "max_single_brightness")
            before.mMaxSingle.green 0xFF
          blue := files.readMaxBrightness (ledFile "blue" "max_single_brightness")
            before.mMaxSingle.blue 0xFF }
      mMaxMix :=
        { red := files.readMaxBrightness (ledFile "red" "max_mix_brightness") before.mMaxMix.red 0xFF
          green := files.readMaxBrightness (ledFile "green" "max_mix_brightness")
            before.mMaxMix.green 0xFF
          blue := files.readMaxBrightness (ledFile "blue" "max_mix_brightness")
            before.mMaxMix.blue 0xFF }
      mHasButtonFile := files.present (ledFile "button-backlight" "brightness")
      mHasPersistenceFile := files.present "/sys/class/graphics/fb0/msm_fb_persist_mode"
      batteryState := before.batteryState
      notificationState := before.notificationState }

/-- The maxima. -/
inductive Maximum
  | lcd
  | single (led : Led)
  | mix (led : Led)
  deriving DecidableEq, Repr

/-- The name of an LED in a path. -/
def Led.name : Led → String
  | .red => "red"
  | .green => "green"
  | .blue => "blue"

/-- The file of a maximum. -/
def Maximum.file (files : Attributes) : Maximum → String
  | .lcd => files.lcdClassBase ++ "/max_brightness"
  | .single led => ledFile led.name "max_single_brightness"
  | .mix led => ledFile led.name "max_mix_brightness"

/-- The default of a maximum. -/
def Maximum.defaultValue : Maximum → Int32
  | .lcd => -1
  | .single _ | .mix _ => 0xFF

/-- The value of a maximum before the constructor runs. -/
def Maximum.initial (before : Uninitialized) : Maximum → Int32
  | .lcd => 0
  | .single led => before.mMaxSingle.component led
  | .mix led => before.mMaxMix.component led

/-- The value the constructor gives to a maximum. -/
def Setup.maximum (setup : Setup) : Maximum → Int32
  | .lcd => setup.mBacklightMax
  | .single led => setup.mMaxSingle.component led
  | .mix led => setup.mMaxMix.component led

/-- The number of a file if it is a valid non-negative `int`, otherwise the default. -/
def documented (contents : Option (List UInt8)) (defaultValue : Int32) : Int32 :=
  match contents.bind leadingNumber with
  | none => defaultValue
  | some n => if 0 ≤ n ∧ n < 2 ^ 31 then Int32.ofInt n else defaultValue

/-- The file is missing, or has nothing but white space. -/
def Blank (contents : Option (List UInt8)) : Prop :=
  ∀ text ∈ contents, text.all isSpace = true

/-- The file begins with a number that is not too large, or it is blank and the member happens to
hold the default or a negative value. -/
def Sound (contents : Option (List UInt8)) (initial defaultValue : Int32) : Prop :=
  (∃ n, contents.bind leadingNumber = some n ∧ n < 2 ^ 31) ∨
    Blank contents ∧ (initial < 0 ∨ initial = defaultValue)

/-- All maxima are read in the same way. -/
theorem Light.maximum_of_construct {files : Attributes} {before : Uninitialized} {setup : Setup}
    (h : Light.construct files before = some setup) (m : Maximum) :
    setup.maximum m = files.readMaxBrightness (m.file files) (m.initial before) m.defaultValue := by
  unfold Light.construct at h
  split at h
  · exact absurd h (by simp)
  · obtain rfl := Option.some.inj h
    cases m with
    | lcd => rfl
    | single led => cases led <;> rfl
    | mix led => cases led <;> rfl

/-- The branch for a failed `read` is never taken. -/
theorem Attributes.readMaxBrightness_eq (files : Attributes) (file : String)
    (initial defaultValue : Int32) : files.readMaxBrightness file initial defaultValue =
      if (files.read file initial).1 < 0 then defaultValue else (files.read file initial).1 := by
  simp only [Attributes.readMaxBrightness]
  cases (files.read file initial).2 <;> rfl

/-- From a blank file the default comes only by accident. -/
theorem readMaxBrightness_of_blank {files : Attributes} {file : String}
    (h : Blank (files.contents file)) (initial defaultValue : Int32) :
    files.readMaxBrightness file initial defaultValue =
        documented (files.contents file) defaultValue ↔
      Sound (files.contents file) initial defaultValue := by
  have hread : (files.read file initial).1 = initial := by
    unfold Attributes.read
    cases hcontents : files.contents file with
    | none => rfl
    | some text => simp [extract, h text hcontents]
  have hnumber : (files.contents file).bind leadingNumber = none := by
    cases hcontents : files.contents file with
    | none => rfl
    | some text => exact leadingNumber_of_space (h text hcontents)
  rw [files.readMaxBrightness_eq, hread, documented, Sound, hnumber]
  by_cases hnegative : initial < 0
  · simp [h, hnegative]
  · simp [h, hnegative]

/-- A number that is not too large gives what is documented. -/
theorem readMaxBrightness_of_number {files : Attributes} {file : String} {text : List UInt8} {n : Int}
    (hcontents : files.contents file = some text) (hnumber : leadingNumber text = some n)
    (initial : Int32) {defaultValue : Int32} (hmax : defaultValue ≠ Int32.maxValue) :
    files.readMaxBrightness file initial defaultValue = documented (some text) defaultValue ↔
      n < 2 ^ 31 := by
  rw [files.readMaxBrightness_eq, Attributes.read, hcontents, documented, Option.bind_some, hnumber]
  dsimp only
  rw [extract_of_number hnumber]
  by_cases hlow : n < -2 ^ 31
  · rw [if_pos hlow, if_pos (by decide), if_neg (by omega)]
    exact iff_of_true rfl (by omega)
  · rw [if_neg hlow]
    by_cases hhigh : 2 ^ 31 ≤ n
    · rw [if_pos hhigh, if_neg (by decide), if_neg (by omega)]
      exact iff_of_false hmax.symm (by omega)
    · have hvalue : (Int32.ofInt n).toInt = n := Int32.toInt_ofInt_of_le (by omega) (by omega)
      have hnegative : Int32.ofInt n < 0 ↔ n < 0 := by
        rw [Int32.lt_iff_toInt_lt, hvalue]
        rfl
      rw [if_neg hhigh]
      refine iff_of_true ?_ (by omega)
      by_cases hn : n < 0
      · rw [if_pos (hnegative.mpr hn), if_neg (by omega)]
      · rw [if_neg (mt hnegative.mp hn), if_pos (by omega)]

/-- A maximum is what is documented exactly when its file is sound. -/
theorem readMaxBrightness_iff (files : Attributes) (file : String) (initial : Int32)
    {defaultValue : Int32} (hzero : defaultValue ≠ 0) (hmax : defaultValue ≠ Int32.maxValue) :
    files.readMaxBrightness file initial defaultValue =
        documented (files.contents file) defaultValue ↔
      Sound (files.contents file) initial defaultValue := by
  by_cases hblank : Blank (files.contents file)
  · exact readMaxBrightness_of_blank hblank initial defaultValue
  · cases hcontents : files.contents file with
    | none => exact absurd (by simp [Blank, hcontents]) hblank
    | some text =>
      rw [hcontents] at hblank
      rw [Sound, or_iff_left fun h => hblank h.1, Option.bind_some]
      cases hnumber : leadingNumber text with
      | none =>
        -- the failed extraction stores zero
        have hspace : ¬ text.all isSpace = true := by simpa [Blank] using hblank
        rw [files.readMaxBrightness_eq, Attributes.read, hcontents]
        simp only [extract, if_neg hspace, hnumber, documented, Option.bind_some]
        simpa using hzero.symm
      | some n => simp [readMaxBrightness_of_number hcontents hnumber initial hmax]

/-- No default is what a failed extraction stores. -/
theorem Maximum.defaultValue_ne (m : Maximum) :
    m.defaultValue ≠ 0 ∧ m.defaultValue ≠ Int32.maxValue := by
  cases m with
  | lcd => decide
  | single led | mix led =>
    change (0xFF : Int32) ≠ 0 ∧ (0xFF : Int32) ≠ Int32.maxValue
    decide

/-- After the constructor every maximum is the number of its file if that is a valid non-negative
`int`, and otherwise the default, exactly when each file begins with a number that is not too large,
or is blank while the member happens to hold the default or a negative value. -/
theorem Light.maxima_documented_iff {files : Attributes} {before : Uninitialized} {setup : Setup}
    (h : Light.construct files before = some setup) :
    (∀ m : Maximum, setup.maximum m = documented (files.contents (m.file files)) m.defaultValue) ↔
      ∀ m : Maximum, Sound (files.contents (m.file files)) (m.initial before) m.defaultValue := by
  refine forall_congr' fun m => ?_
  obtain ⟨hzero, hmax⟩ := m.defaultValue_ne
  rw [Light.maximum_of_construct h m]
  exact readMaxBrightness_iff files _ _ hzero hmax

/-- Files with the text 255. -/
theorem Light.maxima_documented_with_255 :
    let files : Attributes := ⟨fun _ => true, fun _ => some [50, 53, 53, 10]⟩
    let off : LightState := ⟨0, .none, 0, 0, .user⟩
    ∃ setup, Light.construct files ⟨⟨0, 0, 0⟩, ⟨0, 0, 0⟩, off, off⟩ = some setup ∧
      setup.maximum .lcd = 255 := by
  intro files off
  obtain ⟨setup, hsetup⟩ : ∃ setup,
    Light.construct files ⟨⟨0, 0, 0⟩, ⟨0, 0, 0⟩, off, off⟩ = some setup := ⟨_, rfl⟩
  have hnumber : leadingNumber [50, 53, 53, 10] = some 255 := by decide
  have hmaxima := (Light.maxima_documented_iff hsetup).mpr fun _ => .inl ⟨255, hnumber, by decide⟩
  exact ⟨setup, hsetup, (hmaxima .lcd).trans (by decide)⟩

/-- Without files the maximum of the panel is zero, and those of the LEDs are what was in memory. -/
theorem Light.maxima_of_missing_files :
    let files : Attributes := ⟨fun _ => true, fun _ => none⟩
    let off : LightState := ⟨0, .none, 0, 0, .user⟩
    ∃ setup, Light.construct files ⟨⟨7, 0, 0⟩, ⟨0, 0, 0⟩, off, off⟩ = some setup ∧
      setup.maximum .lcd = 0 ∧ setup.maximum (.single .red) = 7 ∧
      documented (files.contents (Maximum.file files .lcd)) Maximum.lcd.defaultValue = -1 := by
  exact ⟨_, rfl, by decide, by decide, by decide⟩

end Yoshino.Lights
