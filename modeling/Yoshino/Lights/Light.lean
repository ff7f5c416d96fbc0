import Mathlib.Algebra.Order.Ring.Int
import Yoshino.Library.Runs

/-!
# The light service

`Light` of hardware/lights after its constructor. A request names a light and a state; the service
scales the colours, remembers the battery and the notification state, which share one RGB LED, and
writes sysfs nodes. The nodes keep what was last written to them, and a write can fail; the service
tracks the mode of the LED and of the panel in two flags. What the constructor finds and the states
before the first request are arbitrary.
-/

namespace Yoshino.Lights

/-- `Flash`. -/
inductive Flash
  | none
  | timed
  | hardware
  deriving DecidableEq, Repr

/-- `Brightness`. -/
inductive Brightness
  | user
  | sensor
  | lowPersistence
  deriving DecidableEq, Repr

/-- `LightState`. -/
structure LightState where
  color : UInt32
  flashMode : Flash
  flashOnMs : Int32
  flashOffMs : Int32
  brightnessMode : Brightness
  deriving DecidableEq, Repr

/-- `Type`; a client can send values that are none of the enumeration's. -/
inductive LightType
  | backlight
  | keyboard
  | buttons
  | battery
  | notifications
  | attention
  | bluetooth
  | wifi
  | unknown (value : Int32)
  deriving DecidableEq, Repr

/-- `Status`. -/
inductive Status
  | success
  | lightNotSupported
  | unknown
  deriving DecidableEq, Repr

/-- The LEDs of the RGB light. -/
inductive Led
  | red
  | green
  | blue
  deriving DecidableEq, Repr

/-- The files that are written. -/
inductive Node
  | syncState
  | startBlink
  | brightness (led : Led)
  | lutPwm (led : Led)
  | pauseLoMulti (led : Led)
  | pauseHiMulti (led : Led)
  | stepDuration (led : Led)
  | persistMode
  | lcd
  | button
  deriving DecidableEq, Repr

/-- What is written: a number, or the duty cycles `write_lut` prints for a number. -/
inductive NodeValue
  | int (value : Int32)
  | lut (brightness : Int32)
  deriving DecidableEq, Repr

/-- The writes that succeeded, newest first. -/
abbrev Sysfs := List (Node × NodeValue)

/-- `Color`. -/
structure Color where
  red : Int32
  green : Int32
  blue : Int32
  deriving DecidableEq, Repr

/-- The component of one LED. -/
def Color.component (color : Color) : Led → Int32
  | .red => color.red
  | .green => color.green
  | .blue => color.blue

/-- The constructor of `Color` from a colour value. -/
def Color.ofRGB (colorRGB : UInt32) : Color where
  red := ((colorRGB >>> 16) &&& 0xFF).toInt32
  green := ((colorRGB >>> 8) &&& 0xFF).toInt32
  blue := (colorRGB &&& 0xFF).toInt32

/-- `isLit`. -/
def isLit (state : LightState) : Bool :=
  state.color &&& 0x00ffffff != 0

/-- `rgbToBrightness`. -/
def rgbToBrightness (state : LightState) : Int32 :=
  let color := state.color.toInt32
  let red : Int32 := (color >>> 16) &&& 0x00ff
  let green : Int32 := (color >>> 8) &&& 0x00ff
  let blue : Int32 := color &&& 0x00ff
  (77 * red + 150 * green + 29 * blue) >>> 8

/-- `scaleBrightness`. -/
def scaleBrightness (brightness maxBrightness : Int32) : Int32 :=
  (brightness * maxBrightness + 127) / 255

/-- `write`, and whether the file takes the value. -/
def Sysfs.write (files : Sysfs) (accepts : Node → Bool) (node : Node) (value : NodeValue) :
    Sysfs × Bool :=
  if accepts node then ((node, value) :: files, true) else (files, false)

/-- `write_lut`. -/
def Sysfs.writeLut (files : Sysfs) (accepts : Node → Bool) (node : Node) (brightness : Int32) :
    Sysfs × Bool :=
  let buffer := toString brightness ++ ",0\n"
  if buffer.length ≥ 22 then (files, false) else files.write accepts node (.lut brightness)

/-- `HANDLE_LED_BLINK_VALUES`. -/
def Sysfs.handleLedBlinkValues (files : Sysfs) (accepts : Node → Bool) (led : Led)
    (brightness onMS offMS : Int32) : Sysfs × Bool :=
  if brightness ≠ 0 then
    let lut := files.writeLut accepts (.lutPwm led) brightness
    let lo := lut.1.write accepts (.pauseLoMulti led) (.int onMS)
    let hi := lo.1.write accepts (.pauseHiMulti led) (.int offMS)
    let step := hi.1.write accepts (.stepDuration led) (.int 0)
    (step.1, lut.2 && lo.2 && hi.2 && step.2)
  else (files, true)

/-- The service, and the files. -/
structure Light where
  mBacklightMax : Int32
  mMaxSingle : Color
  mMaxMix : Color
  mHasButtonFile : Bool
  mHasPersistenceFile : Bool
  mLowPersistenceEnabled : Bool
  mIsBlinking : Bool
  batteryState : LightState
  notificationState : LightState
  files : Sysfs

/-- What the constructor reads and finds; it leaves the two states as they are. -/
structure Setup where
  mBacklightMax : Int32
  mMaxSingle : Color
  mMaxMix : Color
  mHasButtonFile : Bool
  mHasPersistenceFile : Bool
  batteryState : LightState
  notificationState : LightState

/-- The constructor has run: no mode is set and nothing has been written. -/
def Light.constructed (setup : Setup) : Light :=
  { setup with
    mLowPersistenceEnabled := false
    mIsBlinking := false
    files := [] }

/-- The scaled colour `setSpeakerLightLocked` shows; the maxima depend on whether LEDs mix. -/
def scaledColor (mMaxSingle mMaxMix : Color) (state : LightState) : Color :=
  let color := Color.ofRGB state.color
  let lit := (if color.red ≠ 0 then 1 else 0) + (if color.green ≠ 0 then 1 else 0) +
    (if color.blue ≠ 0 then 1 else 0)
  let maxColor := if lit > 1 then mMaxMix else mMaxSingle
  { red := scaleBrightness color.red maxColor.red
    green := scaleBrightness color.green maxColor.green
    blue := scaleBrightness color.blue maxColor.blue }

/-- The files after the branch of `setSpeakerLightLocked` that blinks. -/
def Sysfs.blink (files : Sysfs) (accepts : Node → Bool) (color : Color) (onMS offMS : Int32) :
    Sysfs × Bool :=
  let sync := files.write accepts .syncState (.int 1)
  let red := sync.1.handleLedBlinkValues accepts .red color.red onMS offMS
  let green := red.1.handleLedBlinkValues accepts .green color.green onMS offMS
  let blue := green.1.handleLedBlinkValues accepts .blue color.blue onMS offMS
  let start := blue.1.write accepts .startBlink (.int 1)
  (start.1, sync.2 && red.2 && green.2 && blue.2 && start.2)

/-- The brightness writes of `setSpeakerLightLocked`; the first that fails is the last. -/
def Sysfs.solid (files : Sysfs) (accepts : Node → Bool) (color : Color) : Sysfs × Bool :=
  let red := files.write accepts (.brightness .red) (.int color.red)
  if !red.2 then red
  else
    let green := red.1.write accepts (.brightness .green) (.int color.green)
    if !green.2 then green
    else green.1.write accepts (.brightness .blue) (.int color.blue)

/-- `setSpeakerLightLocked`. -/
def Light.setSpeakerLightLocked (light : Light) (accepts : Node → Bool) (state : LightState) :
    Light × Bool :=
  let color := scaledColor light.mMaxSingle light.mMaxMix state
  if state.flashMode ≠ .none then
    let files := light.files.blink accepts color state.flashOnMs state.flashOffMs
    ({ light with mIsBlinking := true, files := files.1 }, files.2)
  else
    -- the result of the write that disables the blinking is not looked at
    let stopped := if light.mIsBlinking then (light.files.write accepts .syncState (.int 0)).1
      else light.files
    let files := stopped.solid accepts color
    ({ light with mIsBlinking := false, files := files.1 }, files.2)

/-- `handleSpeakerBatteryLocked`. -/
def Light.handleSpeakerBatteryLocked (light : Light) (accepts : Node → Bool) : Light × Bool :=
  if isLit light.batteryState then light.setSpeakerLightLocked accepts light.batteryState
  else light.setSpeakerLightLocked accepts light.notificationState

/-- `setLightBattery`. -/
def Light.setLightBattery (light : Light) (accepts : Node → Bool) (state : LightState) :
    Light × Bool :=
  { light with batteryState := state }.handleSpeakerBatteryLocked accepts

/-- `setLightNotifications`. -/
def Light.setLightNotifications (light : Light) (accepts : Node → Bool) (state : LightState) :
    Light × Bool :=
  { light with notificationState := state }.handleSpeakerBatteryLocked accepts

/-- `setLightButtons`. -/
def Light.setLightButtons (light : Light) (accepts : Node → Bool) (state : LightState) :
    Light × Status :=
  if !light.mHasButtonFile then (light, .lightNotSupported)
  else
    let files := light.files.write accepts .button (.int (state.color &&& 0xFF).toInt32)
    ({ light with files := files.1 }, if files.2 then .success else .unknown)

/-- A request, the property read for it, and which writes succeed while it is served. No call
writes a file twice. -/
structure Request where
  type : LightType
  state : LightState
  lowPersistenceModeBrightness : Int32
  accepts : Node → Bool

/-- The request asks for low persistence. -/
def Request.lpEnabled (r : Request) : Bool :=
  r.state.brightnessMode == .lowPersistence

/-- The request changes the persistence mode. -/
def Light.changesPersistence (light : Light) (r : Request) : Bool :=
  light.mHasPersistenceFile && light.mLowPersistenceEnabled != r.lpEnabled

/-- The brightness `setLightBacklight` writes for one between 0 and 255. -/
def Light.lcdBrightness (light : Light) (brightness : Int32) : Int32 :=
  if brightness ≠ 0 ∧ light.mBacklightMax > 0 then
    if brightness = 255 then light.mBacklightMax
    else scaleBrightness (brightness - 1) light.mBacklightMax + 1
  else brightness

/-- `setLightBacklight`. -/
def Light.setLightBacklight (light : Light) (r : Request) : Light × Bool :=
  let cannotHandlePersistence := !light.mHasPersistenceFile && r.lpEnabled
  let changes := light.changesPersistence r
  let mode := if changes then
      light.files.write r.accepts .persistMode (.int (if r.lpEnabled then 1 else 0))
    else (light.files, true)
  let brightness := if changes && r.lpEnabled then r.lowPersistenceModeBrightness
    else rgbToBrightness r.state
  let lcd := if mode.2 then mode.1.write r.accepts .lcd (.int (light.lcdBrightness brightness))
    else mode
  ({ light with
      mLowPersistenceEnabled := if changes then r.lpEnabled else light.mLowPersistenceEnabled
      files := lcd.1 },
    !cannotHandlePersistence && lcd.2)

/-- The status of a result. -/
def Status.ofBool (status : Bool) : Status :=
  if status then .success else .unknown

/-- `setLight`. -/
def Light.setLight (light : Light) (r : Request) : Light × Status :=
  match r.type with
  | .backlight => (light.setLightBacklight r).map id .ofBool
  | .buttons => light.setLightButtons r.accepts r.state
  | .battery => (light.setLightBattery r.accepts r.state).map id .ofBool
  | .notifications | .attention => (light.setLightNotifications r.accepts r.state).map id .ofBool
  | .keyboard | .bluetooth | .wifi | .unknown _ => (light, .lightNotSupported)

/-- The service after a request. -/
def Light.serve (light : Light) (r : Request) : Light :=
  (light.setLight r).1

end Yoshino.Lights
