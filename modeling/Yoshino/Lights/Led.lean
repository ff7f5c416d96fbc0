import Mathlib.Data.List.Infix
import Yoshino.Lights.Nodes

/-!
# What the RGB LED shows

Battery, notification and attention requests share the LED: the last battery state wins while its
colour is lit, otherwise the last of the others. A solid colour sets the brightness of every LED. A
flashing colour sets the duty cycles of the LEDs it uses and leaves those of the others as they are,
so an LED that an earlier flash has used keeps blinking. The service keeps the last state of each
kind in members that no constructor sets; until the first request of a kind it shows what they hold.
-/

namespace Yoshino.Lights

open Yoshino.Library

/-- The lights that share the LED. -/
inductive LedLight
  | battery
  | notifications
  | attention
  deriving DecidableEq, Repr

/-- The type a client names the light by. -/
def LedLight.type : LedLight → LightType
  | .battery => .battery
  | .notifications => .notifications
  | .attention => .attention

/-- A request for one of these lights. -/
structure LedRequest where
  light : LedLight
  state : LightState
  lowPersistenceModeBrightness : Int32 := 128

/-- The request, served with every write succeeding. -/
def LedRequest.request (r : LedRequest) : Request where
  type := r.light.type
  state := r.state
  lowPersistenceModeBrightness := r.lowPersistenceModeBrightness
  accepts _ := true

/-- The state of the last request that is selected. -/
def lastState (selects : LedRequest → Bool) (initial : LightState) (requests : List LedRequest) :
    LightState :=
  ((requests.filter selects).getLast?.map LedRequest.state).getD initial

/-- The request is for the battery light. -/
def LedRequest.isBattery (r : LedRequest) : Bool :=
  r.light == .battery

/-- The last battery state while its colour is lit, else the last of the other states, given the states
that count before the first request of each kind. -/
def winnerFrom (battery notification : LightState) (requests : List LedRequest) : LightState :=
  let battery := lastState LedRequest.isBattery battery requests
  if isLit battery then battery else lastState (fun r => !r.isBattery) notification requests

/-- A state that shows nothing. -/
def LightState.off : LightState :=
  ⟨0, .none, 0, 0, .user⟩

/-- The state the LED is to show, from the requests alone. -/
def winner (requests : List LedRequest) : LightState :=
  winnerFrom .off .off requests

/-- The state the service shows. Until there is a request of a kind it takes what the memory of the
member holds, which no constructor sets. -/
def shown (setup : Setup) (requests : List LedRequest) : LightState :=
  winnerFrom setup.batteryState setup.notificationState requests

/-- What a node holds, given its content before the first request. -/
def Sysfs.content (files : Sysfs) (boot : Node → NodeValue) (node : Node) : NodeValue :=
  (files.lookup node).getD (boot node)

/-- A request that is selected is the last one. -/
theorem lastState_append (selects : LedRequest → Bool) (initial : LightState)
    (requests : List LedRequest) (r : LedRequest) :
    lastState selects initial (requests ++ [r]) =
      if selects r then r.state else lastState selects initial requests := by
  unfold lastState
  by_cases h : selects r <;> simp [h]

/-- The service after the requests. -/
def afterRequests (setup : Setup) (requests : List LedRequest) : Light :=
  run Light.serve (.constructed setup) (requests.map LedRequest.request)

/-- The scaled colour that is shown after the requests. -/
def shownColor (setup : Setup) (requests : List LedRequest) : Color :=
  scaledColor setup.mMaxSingle setup.mMaxMix (shown setup requests)

/-- The LED flashes after the requests. -/
def flashes (setup : Setup) (led : Led) (requests : List LedRequest) : Prop :=
  (shown setup requests).flashMode ≠ .none ∧ (shownColor setup requests).component led ≠ 0

/-- The LED has not flashed after any of the requests. -/
def neverFlashed (setup : Setup) (led : Led) (requests : List LedRequest) : Prop :=
  ∀ first, first <+: requests → first ≠ [] → ¬ flashes setup led first

/-- Before the first request. -/
theorem neverFlashed_nil (setup : Setup) (led : Led) : neverFlashed setup led [] :=
  fun _ hfirst hne => absurd (List.prefix_nil.mp hfirst) hne

/-- One more request. -/
theorem neverFlashed_append (setup : Setup) (led : Led) (requests : List LedRequest)
    (r : LedRequest) :
    neverFlashed setup led (requests ++ [r]) ↔
      neverFlashed setup led requests ∧ ¬ flashes setup led (requests ++ [r]) := by
  unfold neverFlashed
  simp only [List.prefix_concat_iff]
  constructor
  · intro h
    exact ⟨fun first hfirst => h first (.inr hfirst), h _ (.inl rfl) (by simp)⟩
  · rintro ⟨hearlier, hlast⟩ first (rfl | hfirst) hne
    · exact hlast
    · exact hearlier first hfirst hne

/-- What the service remembers of the requests. -/
structure Remembers (setup : Setup) (requests : List LedRequest) (light : Light) : Prop where
  maxSingle : light.mMaxSingle = setup.mMaxSingle
  maxMix : light.mMaxMix = setup.mMaxMix
  battery : light.batteryState = lastState LedRequest.isBattery setup.batteryState requests
  notification : light.notificationState =
    lastState (fun r => !r.isBattery) setup.notificationState requests

/-- The request is remembered as the last one of its kind. -/
theorem Remembers.remember {setup : Setup} {requests : List LedRequest} {light : Light}
    (h : Remembers setup requests light) (r : LedRequest) :
    Remembers setup (requests ++ [r]) (light.remember r.request) := by
  have htype : r.request.type = .battery ↔ r.isBattery = true := by
    obtain ⟨kind, state, brightness⟩ := r
    cases kind <;> simp [LedRequest.request, LedLight.type, LedRequest.isBattery]
  unfold Light.remember
  by_cases hbattery : r.isBattery = true
  · rw [if_pos (htype.mpr hbattery)]
    exact ⟨h.maxSingle, h.maxMix, by simp [lastState_append, hbattery, LedRequest.request],
      by simp [lastState_append, hbattery, h.notification]⟩
  · rw [if_neg (htype.not.mpr hbattery)]
    exact ⟨h.maxSingle, h.maxMix, by simp [lastState_append, hbattery, h.battery],
      by simp [lastState_append, hbattery, LedRequest.request]⟩

/-- The state that the service picks is the one shown. -/
theorem Remembers.speakerState {setup : Setup} {requests : List LedRequest} {light : Light}
    (h : Remembers setup requests light) : light.speakerState = shown setup requests := by
  simp only [Light.speakerState, shown, winnerFrom, h.battery, h.notification]

/-- Showing a state keeps what is remembered. -/
theorem Remembers.setSpeakerLightLocked {setup : Setup} {requests : List LedRequest} {light : Light}
    (h : Remembers setup requests light) (accepts : Node → Bool) (state : LightState) :
    Remembers setup requests (light.setSpeakerLightLocked accepts state).1 := by
  unfold Light.setSpeakerLightLocked
  by_cases hflash : state.flashMode = .none
  · simpa only [hflash, ne_eq, not_true_eq_false, if_false] using ⟨h.1, h.2, h.3, h.4⟩
  · simpa only [hflash, ne_eq, not_false_eq_true, if_true] using ⟨h.1, h.2, h.3, h.4⟩

/-- One more request shows the state of the sequence with it. -/
theorem Remembers.serve {setup : Setup} {requests : List LedRequest} {light : Light}
    (h : Remembers setup requests light) (r : LedRequest) :
    light.serve r.request = ((light.remember r.request).setSpeakerLightLocked (fun _ => true)
      (shown setup (requests ++ [r]))).1 := by
  have hspeaker : r.request.isSpeaker = true := by
    obtain ⟨kind, state, brightness⟩ := r
    cases kind <;> rfl
  rw [Light.serve_of_isSpeaker light hspeaker, (h.remember r).speakerState]
  rfl

/-- After every sequence of requests the last states are remembered. -/
theorem remembers_afterRequests (setup : Setup) (requests : List LedRequest) :
    Remembers setup requests (afterRequests setup requests) := by
  induction requests using List.reverseRecOn with
  | nil => exact ⟨rfl, rfl, rfl, rfl⟩
  | append_singleton requests r ih =>
    unfold afterRequests at ih ⊢
    rw [List.map_append, List.map_singleton, run_concat, ih.serve r]
    exact (ih.remember r).setSpeakerLightLocked _ _

/-- The last request of a sequence. -/
theorem afterRequests_append (setup : Setup) (requests : List LedRequest) (r : LedRequest) :
    afterRequests setup (requests ++ [r]) =
      (((afterRequests setup requests).remember r.request).setSpeakerLightLocked (fun _ => true)
        (shown setup (requests ++ [r]))).1 := by
  have h := remembers_afterRequests setup requests
  unfold afterRequests at h ⊢
  rw [List.map_append, List.map_singleton, run_concat, h.serve r]

/-- The files after a request with which a flashing state is shown. -/
theorem afterRequests_flashing {setup : Setup} {requests : List LedRequest} {r : LedRequest}
    (h : (shown setup (requests ++ [r])).flashMode ≠ .none) :
    ∃ onMS offMS, (afterRequests setup (requests ++ [r])).mIsBlinking = true ∧
      (afterRequests setup (requests ++ [r])).files =
        ((afterRequests setup requests).files.blink (fun _ => true)
          (shownColor setup (requests ++ [r])) onMS offMS).1 := by
  have hremembers := (remembers_afterRequests setup requests).remember r
  rw [afterRequests_append, Light.setSpeakerLightLocked_flashing _ _ h, hremembers.maxSingle,
    hremembers.maxMix, (Light.remember_frame _ r.request).2.2]
  exact ⟨_, _, rfl, rfl⟩

/-- The files after a request with which a solid state is shown. -/
theorem afterRequests_solid {setup : Setup} {requests : List LedRequest} {r : LedRequest}
    (h : (shown setup (requests ++ [r])).flashMode = .none) :
    (afterRequests setup (requests ++ [r])).mIsBlinking = false ∧
      (afterRequests setup (requests ++ [r])).files =
        (((afterRequests setup requests).stopped fun _ => true).solid (fun _ => true)
          (shownColor setup (requests ++ [r]))).1 := by
  have hremembers := (remembers_afterRequests setup requests).remember r
  rw [afterRequests_append, Light.setSpeakerLightLocked_solid _ _ h, hremembers.maxSingle,
    hremembers.maxMix, Light.stopped, (Light.remember_frame _ r.request).2.1,
    (Light.remember_frame _ r.request).2.2]
  exact ⟨rfl, rfl⟩

/-- The duty cycles of an LED change exactly when it flashes. -/
theorem lookup_lutPwm_append (setup : Setup) (requests : List LedRequest) (r : LedRequest)
    (led : Led) [Decidable (flashes setup led (requests ++ [r]))] :
    (afterRequests setup (requests ++ [r])).files.lookup (.lutPwm led) =
      if flashes setup led (requests ++ [r]) then
        some (.lut ((shownColor setup (requests ++ [r])).component led))
      else (afterRequests setup requests).files.lookup (.lutPwm led) := by
  by_cases hflash : (shown setup (requests ++ [r])).flashMode = .none
  · rw [(afterRequests_solid hflash).2, Sysfs.lookup_solid _ _ _ (by nofun),
      Light.lookup_stopped _ _ (by nofun), if_neg fun h => h.1 hflash]
  · obtain ⟨onMS, offMS, -, hfiles⟩ := afterRequests_flashing hflash
    rw [hfiles, Sysfs.lookup_blink_lutPwm]
    simp [flashes, hflash]

/-- An LED has no duty cycle exactly when it had none at first and has never flashed. -/
theorem content_lutPwm_eq_zero_iff (setup : Setup) (boot : Node → NodeValue) (led : Led)
    (requests : List LedRequest) :
    (afterRequests setup requests).files.content boot (.lutPwm led) = .lut 0 ↔
      boot (.lutPwm led) = .lut 0 ∧ neverFlashed setup led requests := by
  classical
  induction requests using List.reverseRecOn with
  | nil =>
    simp [neverFlashed_nil, afterRequests, Sysfs.content, Light.constructed]
  | append_singleton requests r ih =>
    rw [neverFlashed_append, Sysfs.content, lookup_lutPwm_append]
    by_cases hflash : flashes setup led (requests ++ [r])
    · simp [hflash, hflash.2]
    · rw [if_neg hflash]
      simpa [hflash, Sysfs.content] using ih

/-- In a flash the duty cycle of an LED is the colour's when the colour uses the LED, and otherwise
when the LED has never flashed. -/
theorem content_lutPwm_append_iff (setup : Setup) (boot : Node → NodeValue) (led : Led)
    (requests : List LedRequest) (r : LedRequest)
    (h : (shown setup (requests ++ [r])).flashMode ≠ .none) :
    (afterRequests setup (requests ++ [r])).files.content boot (.lutPwm led) =
        .lut ((shownColor setup (requests ++ [r])).component led) ↔
      ((shownColor setup (requests ++ [r])).component led = 0 →
        boot (.lutPwm led) = .lut 0 ∧ neverFlashed setup led requests) := by
  classical
  by_cases hzero : (shownColor setup (requests ++ [r])).component led = 0
  · have hoff : ¬ flashes setup led (requests ++ [r]) := fun hflashes => hflashes.2 hzero
    rw [Sysfs.content, lookup_lutPwm_append, if_neg hoff, hzero, ← Sysfs.content,
      content_lutPwm_eq_zero_iff]
    exact ⟨fun hnever _ => hnever, fun hnever => hnever rfl⟩
  · have hon : flashes setup led (requests ++ [r]) := ⟨h, hzero⟩
    rw [Sysfs.content, lookup_lutPwm_append, if_pos hon]
    exact iff_of_true rfl fun heq => absurd heq hzero

/-- While the flag says that the LED does not blink, its synchronization is off. -/
theorem syncState_of_not_blinking (setup : Setup) (requests : List LedRequest)
    (h : (afterRequests setup requests).mIsBlinking = false) :
    (afterRequests setup requests).files.lookup .syncState = none ∨
      (afterRequests setup requests).files.lookup .syncState = some (.int 0) := by
  induction requests using List.reverseRecOn with
  | nil => exact .inl rfl
  | append_singleton requests r ih =>
    by_cases hflash : (shown setup (requests ++ [r])).flashMode = .none
    · rw [(afterRequests_solid hflash).2, Sysfs.lookup_solid _ _ _ (by nofun),
        Light.lookup_stopped_syncState]
      split
      · exact .inr rfl
      next hblinking => exact ih (by simpa using hblinking)
    · obtain ⟨_, _, hblinking, -⟩ := afterRequests_flashing hflash
      exact absurd (hblinking.symm.trans h) nofun

/-- The LED shows one state and nothing else: its colour on every LED if it is solid, its duty cycle on
every LED if it flashes. -/
def ShowsOnly (boot : Node → NodeValue) (files : Sysfs) (flashMode : Flash) (color : Color) : Prop :=
  if flashMode = .none then
    (files.lookup .syncState = none ∨ files.lookup .syncState = some (.int 0)) ∧
      ∀ led, files.content boot (.brightness led) = .int (color.component led)
  else
    files.lookup .syncState = some (.int 1) ∧
      ∀ led, files.content boot (.lutPwm led) = .lut (color.component led)

/-- The state of the service is shown and nothing else, exactly when a flash leaves no LED off that an
earlier request has made flash. -/
theorem showsOnly_shown_iff (setup : Setup) (boot : Node → NodeValue) (earlier : List LedRequest)
    (last : LedRequest) :
    ShowsOnly boot (afterRequests setup (earlier ++ [last])).files
        (shown setup (earlier ++ [last])).flashMode (shownColor setup (earlier ++ [last])) ↔
      ((shown setup (earlier ++ [last])).flashMode ≠ .none → ∀ led,
        (shownColor setup (earlier ++ [last])).component led = 0 →
          boot (.lutPwm led) = .lut 0 ∧ neverFlashed setup led earlier) := by
  unfold ShowsOnly
  by_cases hflash : (shown setup (earlier ++ [last])).flashMode = .none
  · obtain ⟨hblinking, hfiles⟩ := afterRequests_solid hflash
    rw [if_pos hflash]
    refine iff_of_true ⟨syncState_of_not_blinking setup _ hblinking, fun led => ?_⟩
      fun hne => absurd hflash hne
    rw [Sysfs.content, hfiles, Sysfs.lookup_solid_brightness]
    rfl
  · obtain ⟨onMS, offMS, -, hfiles⟩ := afterRequests_flashing hflash
    have hsync : (afterRequests setup (earlier ++ [last])).files.lookup .syncState = some (.int 1) := by
      rw [hfiles, Sysfs.lookup_blink_syncState]
      rfl
    rw [if_neg hflash]
    simp only [content_lutPwm_append_iff setup boot _ earlier last hflash, hsync, true_and, ne_eq,
      hflash, not_false_eq_true, true_implies]

/-- An unlit colour has no component. -/
theorem ofRGB_of_not_lit {state : LightState} (h : isLit state = false) :
    Color.ofRGB state.color = ⟨0, 0, 0⟩ := by
  have hzero : state.color &&& 0x00ffffff = 0 := by simpa [isLit] using h
  have hshift (count : UInt32) : (state.color >>> count) &&& (0x00ffffff >>> count) = 0 := by
    rw [← UInt32.shiftRight_and, hzero, UInt32.zero_shiftRight]
  have hmask (color mask : UInt32) (hcolor : color &&& mask = 0) (hbyte : mask &&& 0xFF = 0xFF) :
      color &&& 0xFF = 0 := by
    rw [← hbyte, ← UInt32.and_assoc, hcolor, UInt32.zero_and]
  have hred := hmask _ _ (hshift 16) (by decide)
  have hgreen := hmask _ _ (hshift 8) (by decide)
  have hblue := hmask _ _ hzero (by decide)
  simp only [Color.ofRGB, hred, hgreen, hblue]
  rfl

/-- An unlit colour is dark whatever the maxima. -/
theorem scaledColor_of_not_lit {state : LightState} (h : isLit state = false)
    (mMaxSingle mMaxMix : Color) : scaledColor mMaxSingle mMaxMix state = ⟨0, 0, 0⟩ := by
  have hdark (maxBrightness : Int32) : scaleBrightness 0 maxBrightness = 0 := by
    rw [scaleBrightness, Int32.zero_mul]
    decide
  simp only [scaledColor, ofRGB_of_not_lit h, hdark]

/-- What the uninitialized states hold is not shown: there is a battery request, or that memory is unlit;
and there is a request of the others, or the battery's is lit, or that memory is unlit and solid. -/
structure Known (setup : Setup) (requests : List LedRequest) : Prop where
  battery : requests.any LedRequest.isBattery = true ∨ isLit setup.batteryState = false
  notification : (requests.any fun r => !r.isBattery) = true ∨
    isLit (lastState LedRequest.isBattery .off requests) = true ∨
    isLit setup.notificationState = false ∧ setup.notificationState.flashMode = .none

/-- With a request of its kind the last state does not depend on what there was before. -/
theorem lastState_eq_of_any {selects : LedRequest → Bool} {requests : List LedRequest}
    (h : requests.any selects = true) (initial initial' : LightState) :
    lastState selects initial requests = lastState selects initial' requests := by
  have hne : requests.filter selects ≠ [] := by
    simpa [List.filter_eq_nil_iff] using h
  rw [lastState, lastState, List.getLast?_eq_some_getLast hne]
  rfl

/-- Without a request of its kind the last state is what there was before. -/
theorem lastState_eq_of_not_any {selects : LedRequest → Bool} {requests : List LedRequest}
    (h : requests.any selects = false) (initial : LightState) :
    lastState selects initial requests = initial := by
  have hnil : requests.filter selects = [] := by
    simpa [List.filter_eq_nil_iff] using h
  simp [lastState, hnil]

/-- Where the uninitialized states are not shown, the battery states of the service and of the requests
are equal, or both are unlit. -/
theorem Known.battery_eq {setup : Setup} {requests : List LedRequest} (h : Known setup requests) :
    lastState LedRequest.isBattery setup.batteryState requests =
        lastState LedRequest.isBattery .off requests ∨
      isLit (lastState LedRequest.isBattery setup.batteryState requests) = false ∧
        isLit (lastState LedRequest.isBattery .off requests) = false := by
  cases hany : requests.any LedRequest.isBattery with
  | true => exact .inl (lastState_eq_of_any hany _ _)
  | false =>
    have hunlit := h.battery.resolve_left (by simp [hany])
    rw [lastState_eq_of_not_any hany, lastState_eq_of_not_any hany]
    exact .inr ⟨hunlit, rfl⟩

/-- Where the uninitialized states are not shown, the service shows the state that wins. -/
theorem Known.shown_eq {setup : Setup} {requests : List LedRequest} (h : Known setup requests) :
    (shown setup requests).flashMode = (winner requests).flashMode ∧
      shownColor setup requests = scaledColor setup.mMaxSingle setup.mMaxMix (winner requests) := by
  have hlit : isLit (lastState LedRequest.isBattery setup.batteryState requests) =
      isLit (lastState LedRequest.isBattery .off requests) := by
    rcases h.battery_eq with heq | ⟨hservice, hrequests⟩
    · rw [heq]
    · rw [hservice, hrequests]
  unfold shownColor shown winner winnerFrom
  dsimp only
  rw [hlit]
  by_cases hbattery : isLit (lastState LedRequest.isBattery .off requests) = true
  · have heq := h.battery_eq.resolve_right fun hunlit => by simp [hbattery] at hunlit
    rw [heq, if_pos hbattery, if_pos hbattery]
    exact ⟨rfl, rfl⟩
  · rw [if_neg hbattery, if_neg hbattery]
    cases hany : requests.any fun r => !r.isBattery with
    | true =>
      rw [lastState_eq_of_any hany setup.notificationState .off]
      exact ⟨rfl, rfl⟩
    | false =>
      obtain ⟨hunlit, hsolid⟩ := (h.notification.resolve_left (by simp [hany])).resolve_left hbattery
      rw [lastState_eq_of_not_any hany, lastState_eq_of_not_any hany]
      exact ⟨hsolid, (scaledColor_of_not_lit hunlit _ _).trans (scaledColor_of_not_lit rfl _ _).symm⟩

/-- After every sequence of requests that leaves nothing of the uninitialized states on the LED, the LED
shows the state that wins and nothing else, exactly when a flashing winner leaves no LED off that was
on in a flash shown after an earlier request. -/
theorem Light.led_shows_winner_iff (setup : Setup) (boot : Node → NodeValue)
    (earlier : List LedRequest) (last : LedRequest) (hknown : Known setup (earlier ++ [last])) :
    let requests := earlier ++ [last]
    let light := run Light.serve (.constructed setup) (requests.map LedRequest.request)
    let w := winner requests
    let color := scaledColor setup.mMaxSingle setup.mMaxMix w
    (if w.flashMode = .none then
      (light.files.lookup .syncState = none ∨ light.files.lookup .syncState = some (.int 0)) ∧
        ∀ led, light.files.content boot (.brightness led) = .int (color.component led)
    else
      light.files.lookup .syncState = some (.int 1) ∧
        ∀ led, light.files.content boot (.lutPwm led) = .lut (color.component led)) ↔
      (w.flashMode ≠ .none → ∀ led, color.component led = 0 →
        boot (.lutPwm led) = .lut 0 ∧ neverFlashed setup led earlier) := by
  intro requests light w color
  obtain ⟨hmode, hcolor⟩ := hknown.shown_eq
  have hiff := showsOnly_shown_iff setup boot earlier last
  rw [hmode, hcolor] at hiff
  exact hiff

/-- Once the battery light is set to off, a notification that flashes in yellow after one in red blinks in
red and green only, whatever the battery state held before. -/
theorem Light.led_shows_yellow_flash :
    let maxima : Color := ⟨255, 255, 255⟩
    let setup : Setup := ⟨255, maxima, maxima, true, true, ⟨0x0000ff, .timed, 0, 0, .user⟩, .off⟩
    let earlier : List LedRequest := [⟨.battery, .off, 128⟩,
      ⟨.notifications, ⟨0xff0000, .timed, 500, 500, .user⟩, 128⟩]
    let last : LedRequest := ⟨.attention, ⟨0xffff00, .timed, 500, 500, .user⟩, 128⟩
    let light := run Light.serve (.constructed setup) ((earlier ++ [last]).map LedRequest.request)
    light.files.lookup .syncState = some (.int 1) ∧
      ∀ led, light.files.content (fun _ => .lut 0) (.lutPwm led) =
        .lut ((⟨255, 255, 0⟩ : Color).component led) := by
  intro maxima setup earlier last light
  have hcolor : scaledColor maxima maxima (winner (earlier ++ [last])) = ⟨255, 255, 0⟩ := by
    decide +kernel
  have hmode : (winner (earlier ++ [last])).flashMode ≠ .none := by decide +kernel
  have hnever (led : Led) (hled : (⟨255, 255, 0⟩ : Color).component led = 0) :
      neverFlashed setup led earlier := by
    cases led with
    | red => exact absurd hled (by decide)
    | green => exact absurd hled (by decide)
    | blue =>
      refine (neverFlashed_append setup .blue [_] _).mpr
        ⟨(neverFlashed_append setup .blue [] _).mpr ⟨neverFlashed_nil setup .blue, ?_⟩, ?_⟩
      · exact fun h => h.2 (by decide +kernel)
      · exact fun h => h.2 (by decide +kernel)
  have hshows := (Light.led_shows_winner_iff setup (fun _ => .lut 0) earlier last
    ⟨by decide +kernel, by decide +kernel⟩).mpr fun _ led hled => by
      rw [hcolor] at hled
      exact ⟨rfl, hnever led hled⟩
  rw [if_neg hmode, hcolor] at hshows
  exact hshows

/-- After a red flash, a green one leaves the red LED blinking. -/
theorem Light.red_blinks_in_green_flash :
    let maxima : Color := ⟨255, 255, 255⟩
    let requests : List LedRequest := [⟨.notifications, ⟨0xff0000, .timed, 500, 500, .user⟩, 128⟩,
      ⟨.notifications, ⟨0x00ff00, .timed, 500, 500, .user⟩, 128⟩]
    let setup : Setup := ⟨255, maxima, maxima, true, true, .off, .off⟩
    let light := run Light.serve (.constructed setup) (requests.map LedRequest.request)
    let w := winner requests
    w.flashMode = .timed ∧ (scaledColor maxima maxima w).component .red = 0 ∧
      light.files.content (fun _ => .lut 0) (.lutPwm .red) = .lut 255 := by
  decide +kernel

/-- What the memory of the battery state happens to hold is shown until the first battery request. -/
example :
    let maxima : Color := ⟨255, 255, 255⟩
    let setup : Setup := ⟨255, maxima, maxima, true, true, ⟨0x00ff00, .none, 0, 0, .user⟩, .off⟩
    let light := run Light.serve (.constructed setup)
      [LedRequest.request ⟨.notifications, ⟨0xff0000, .none, 0, 0, .user⟩, 128⟩]
    light.files.lookup (.brightness .red) = some (.int 0) ∧
      light.files.lookup (.brightness .green) = some (.int 255) := by
  decide +kernel

end Yoshino.Lights
