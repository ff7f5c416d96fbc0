import Yoshino.Library.SignedArithmetic
import Yoshino.Lights.Flags

/-!
# The brightness of the panel

`setLightBacklight` scales the brightness of a colour to the maximum the panel reports. The rounding
adds up to one step too many for a small maximum, and the product leaves the range of `int` for a
large one; in between the scaling is what its comment says.
-/

namespace Yoshino.Lights

open Yoshino.Library

/-- The brightness a backlight request asks for. -/
def Light.requested (light : Light) (r : Request) : Int32 :=
  if light.changesPersistence r && r.lpEnabled then r.lowPersistenceModeBrightness
  else rgbToBrightness r.state

/-- A backlight request whose writes succeed writes what it asks for, scaled. -/
theorem Light.lookup_lcd (light : Light) {r : Request} (htype : r.type = .backlight)
    (hmode : r.accepts .persistMode = true) (hlcd : r.accepts .lcd = true) :
    (light.serve r).files.lookup .lcd = some (.int (light.lcdBrightness (light.requested r))) := by
  rw [light.serve_of_backlight htype]
  simp only [Light.setLightBacklight, Light.requested]
  cases light.changesPersistence r with
  | false => simp [hlcd]
  | true =>
    have hwrites (value : NodeValue) : (light.files.write r.accepts .persistMode value).2 = true := by
      simp [Sysfs.write, hmode]
    simp [hwrites, hlcd]

/-- The exact values of the `int` operations from the colour to the brightness that is written. -/
def intermediates (state : LightState) (mBacklightMax : Int32) : List Int :=
  let color := state.color.toInt32
  let red := ((color >>> 16) &&& 0x00ff).toInt
  let green := ((color >>> 8) &&& 0x00ff).toInt
  let blue := (color &&& 0x00ff).toInt
  let brightness := (rgbToBrightness state).toInt
  let product := (brightness - 1) * mBacklightMax.toInt
  [77 * red, 150 * green, 77 * red + 150 * green, 29 * blue, 77 * red + 150 * green + 29 * blue] ++
    if brightness ≠ 0 ∧ mBacklightMax > 0 ∧ brightness ≠ 255 then
      [brightness - 1, product, product + 127, (product + 127).tdiv 255 + 1]
    else []

/-- A request for the backlight outside low-persistence mode whose writes succeed. -/
structure Request.Plain (r : Request) : Prop where
  type : r.type = .backlight
  mode : r.lpEnabled = false
  persistMode : r.accepts .persistMode = true
  lcd : r.accepts .lcd = true

/-- Such a request writes the brightness of its colour, scaled. -/
theorem Request.Plain.lookup_lcd {r : Request} (h : r.Plain) (light : Light) :
    (light.serve r).files.lookup .lcd =
      some (.int (light.lcdBrightness (rgbToBrightness r.state))) := by
  rw [light.lookup_lcd h.type h.persistMode h.lcd, Light.requested, h.mode, Bool.and_false]
  rfl

/-- The weighted sum of a colour is exact. -/
theorem toInt_rgbToBrightness (state : LightState) :
    let color := state.color.toInt32
    let red := ((color >>> 16) &&& 0x00ff).toInt
    let green := ((color >>> 8) &&& 0x00ff).toInt
    let blue := (color &&& 0x00ff).toInt
    (rgbToBrightness state).toInt = (77 * red + 150 * green + 29 * blue) / 256 := by
  unfold rgbToBrightness
  dsimp only
  generalize state.color.toInt32 = color
  have hred := toInt_and_byte (color >>> 16)
  have hgreen := toInt_and_byte (color >>> 8)
  have hblue := toInt_and_byte color
  generalize (color >>> 16) &&& (0x00ff : Int32) = red at *
  generalize (color >>> 8) &&& (0x00ff : Int32) = green at *
  generalize color &&& (0x00ff : Int32) = blue at *
  have h77 : (77 : Int32).toInt = 77 := rfl
  have h150 : (150 : Int32).toInt = 150 := rfl
  have h29 : (29 : Int32).toInt = 29 := rfl
  have hr : (77 * red).toInt = 77 * red.toInt :=
    toInt_mul_of_fits (by rw [h77, Fits]; omega)
  have hg : (150 * green).toInt = 150 * green.toInt :=
    toInt_mul_of_fits (by rw [h150, Fits]; omega)
  have hb : (29 * blue).toInt = 29 * blue.toInt :=
    toInt_mul_of_fits (by rw [h29, Fits]; omega)
  have hrg : (77 * red + 150 * green).toInt = 77 * red.toInt + 150 * green.toInt := by
    rw [toInt_add_of_fits (by rw [Fits]; omega), hr, hg]
  rw [toInt_shiftRight_byte, toInt_add_of_fits (by rw [Fits]; omega), hrg, hb]

/-- The brightness of a colour is between 0 and 255. -/
theorem rgbToBrightness_range (state : LightState) :
    0 ≤ (rgbToBrightness state).toInt ∧ (rgbToBrightness state).toInt ≤ 255 := by
  have hred := toInt_and_byte (state.color.toInt32 >>> 16)
  have hgreen := toInt_and_byte (state.color.toInt32 >>> 8)
  have hblue := toInt_and_byte state.color.toInt32
  rw [toInt_rgbToBrightness]
  omega

/-- The product of the scaling stays in range up to the largest maximum. -/
theorem product_range {b m : Int} (hb : 0 ≤ b ∧ b ≤ 253) (hm : 0 ≤ m) :
    0 ≤ b * m ∧ b * m ≤ 253 * m :=
  ⟨Int.mul_nonneg hb.1 hm, Int.mul_le_mul_of_nonneg_right hb.2 hm⟩

/-- The scaled brightness of a colour, in exact arithmetic. -/
theorem Light.toInt_lcdBrightness {light : Light} (hpos : 0 < light.mBacklightMax.toInt)
    (hmax : light.mBacklightMax.toInt ≤ 8488077) {b : Int32} (hb : 0 ≤ b.toInt ∧ b.toInt ≤ 255) :
    (light.lcdBrightness b).toInt = if b.toInt = 0 then 0
      else if b.toInt = 255 then light.mBacklightMax.toInt
      else ((b.toInt - 1) * light.mBacklightMax.toInt + 127) / 255 + 1 := by
  have hzero : b = 0 ↔ b.toInt = 0 := Int32.toInt_inj.symm
  have hfull : b = 255 ↔ b.toInt = 255 := Int32.toInt_inj.symm
  have hgt : light.mBacklightMax > 0 := Int32.lt_iff_toInt_lt.mpr hpos
  unfold Light.lcdBrightness scaleBrightness
  by_cases h0 : b.toInt = 0
  · rw [if_neg (by simp [hzero, h0]), if_pos h0, h0]
  · rw [if_pos ⟨mt hzero.mp h0, hgt⟩, if_neg h0]
    by_cases h255 : b.toInt = 255
    · rw [if_pos (hfull.mpr h255), if_pos h255]
    · rw [if_neg (mt hfull.mp h255), if_neg h255]
      have h1 : (1 : Int32).toInt = 1 := rfl
      have h127 : (127 : Int32).toInt = 127 := rfl
      have hdivisor : (255 : Int32).toInt = 255 := rfl
      have hsub : (b - 1).toInt = b.toInt - 1 := toInt_sub_of_fits (by rw [Fits]; omega)
      obtain ⟨hlower, hupper⟩ := product_range (b := b.toInt - 1) (by omega) hpos.le
      have hmul : ((b - 1) * light.mBacklightMax).toInt = (b.toInt - 1) * light.mBacklightMax.toInt := by
        rw [toInt_mul_of_fits (by rw [Fits, hsub]; omega), hsub]
      have hadd : ((b - 1) * light.mBacklightMax + 127).toInt =
          (b.toInt - 1) * light.mBacklightMax.toInt + 127 := by
        rw [toInt_add_of_fits (by rw [Fits]; omega), hmul, h127]
      have hdiv : (((b - 1) * light.mBacklightMax + 127) / 255).toInt =
          ((b.toInt - 1) * light.mBacklightMax.toInt + 127) / 255 := by
        rw [toInt_div_of_nonneg (by omega) (by decide), hadd, hdivisor]
      rw [toInt_add_of_fits (by rw [Fits]; omega), hdiv, h1]

/-- Every operation on a colour fits. -/
theorem intermediates_fit {state : LightState} {mBacklightMax : Int32}
    (hpos : 0 < mBacklightMax.toInt) (hmax : mBacklightMax.toInt ≤ 8488077) :
    ∀ x ∈ intermediates state mBacklightMax, Fits x := by
  have hred := toInt_and_byte (state.color.toInt32 >>> 16)
  have hgreen := toInt_and_byte (state.color.toInt32 >>> 8)
  have hblue := toInt_and_byte state.color.toInt32
  have hrange := rgbToBrightness_range state
  unfold intermediates
  dsimp only
  rw [List.forall_mem_append]
  refine ⟨?_, ?_⟩
  · simp only [List.forall_mem_cons, List.not_mem_nil, false_implies, implies_true, and_true, Fits]
    omega
  · split
    next h =>
      obtain ⟨hzero, -, hfull⟩ := h
      obtain ⟨hlower, hupper⟩ :=
        product_range (b := (rgbToBrightness state).toInt - 1) (by omega) hpos.le
      rw [Int.tdiv_eq_ediv_of_nonneg (by omega)]
      simp only [List.forall_mem_cons, List.not_mem_nil, false_implies, implies_true, and_true, Fits]
      omega
    · exact fun _ h => absurd h List.not_mem_nil

/-- From 64 on the scaled brightness is between one and the maximum. -/
theorem Light.lcdBrightness_range {light : Light} (hmin : 64 ≤ light.mBacklightMax.toInt)
    (hmax : light.mBacklightMax.toInt ≤ 8488077) {b : Int32} (hb : 1 ≤ b.toInt ∧ b.toInt ≤ 255) :
    1 ≤ (light.lcdBrightness b).toInt ∧
      (light.lcdBrightness b).toInt ≤ light.mBacklightMax.toInt := by
  rw [Light.toInt_lcdBrightness (by omega) hmax ⟨by omega, hb.2⟩, if_neg (by omega)]
  split
  · omega
  · obtain ⟨hlower, hupper⟩ :=
      product_range (b := b.toInt - 1) (m := light.mBacklightMax.toInt) (by omega) (by omega)
    omega

/-- From 64 on more brightness is never scaled to less. -/
theorem Light.lcdBrightness_mono {light : Light} (hmin : 64 ≤ light.mBacklightMax.toInt)
    (hmax : light.mBacklightMax.toInt ≤ 8488077) {b₁ b₂ : Int32} (hb₁ : 0 ≤ b₁.toInt)
    (hb₂ : b₂.toInt ≤ 255) (h : b₁.toInt ≤ b₂.toInt) :
    (light.lcdBrightness b₁).toInt ≤ (light.lcdBrightness b₂).toInt := by
  have hvalue₁ := Light.toInt_lcdBrightness (by omega) hmax (b := b₁) ⟨hb₁, by omega⟩
  by_cases hzero : b₁.toInt = 0
  · rw [if_pos hzero] at hvalue₁
    by_cases hzero₂ : b₂.toInt = 0
    · rw [Light.toInt_lcdBrightness (by omega) hmax ⟨by omega, hb₂⟩, if_pos hzero₂, hvalue₁]
    · have hrange := Light.lcdBrightness_range hmin hmax (b := b₂) (by omega)
      omega
  · by_cases hfull : b₂.toInt = 255
    · have hrange := Light.lcdBrightness_range hmin hmax (b := b₁) (by omega)
      rw [Light.toInt_lcdBrightness (by omega) hmax (b := b₂) ⟨by omega, hb₂⟩, if_neg (by omega),
        if_pos hfull]
      exact hrange.2
    · have hproduct : (b₁.toInt - 1) * light.mBacklightMax.toInt ≤
          (b₂.toInt - 1) * light.mBacklightMax.toInt :=
        Int.mul_le_mul_of_nonneg_right (by omega) (by omega)
      rw [hvalue₁, Light.toInt_lcdBrightness (by omega) hmax (b := b₂) ⟨by omega, hb₂⟩,
        if_neg hzero, if_neg (by omega), if_neg (by omega), if_neg hfull]
      omega

/-- From 64 on the scaled brightness is zero for none, between one and the maximum otherwise, and the
maximum for full brightness. -/
theorem Light.lcdBrightness_spec {light : Light} (hmin : 64 ≤ light.mBacklightMax.toInt)
    (hmax : light.mBacklightMax.toInt ≤ 8488077) {b : Int32} (hb : 0 ≤ b.toInt ∧ b.toInt ≤ 255) :
    (light.lcdBrightness b = 0 ↔ b = 0) ∧
      (b ≠ 0 → 1 ≤ light.lcdBrightness b ∧ light.lcdBrightness b ≤ light.mBacklightMax) ∧
      (b = 255 → light.lcdBrightness b = light.mBacklightMax) := by
  have h0 : (0 : Int32).toInt = 0 := rfl
  have h1 : (1 : Int32).toInt = 1 := rfl
  have hscaled := Light.toInt_lcdBrightness (by omega) hmax hb
  have hrange := Light.lcdBrightness_range hmin hmax (b := b)
  simp only [Int32.le_iff_toInt_le, ne_eq, ← Int32.toInt_inj, h0, h1]
  refine ⟨⟨fun hzero => ?_, fun hzero => by rw [hscaled, if_pos hzero]⟩,
    fun hlit => hrange (by omega), fun hfull => ?_⟩
  · by_contra hlit
    have hpositive := (hrange (by omega)).1
    omega
  · have h255 : (255 : Int32).toInt = 255 := rfl
    rw [hscaled, if_neg (by omega), if_pos (by omega)]

/-- A grey one step below white. -/
def nearWhite : Request :=
  { type := .backlight
    state := ⟨0xfefefe, .none, 0, 0, .user⟩
    lowPersistenceModeBrightness := 128
    accepts := fun _ => true }

theorem nearWhite_plain : nearWhite.Plain :=
  ⟨rfl, rfl, rfl, rfl⟩

/-- The product for that grey bounds the maximum from above. -/
theorem max_le_of_fits {mBacklightMax : Int32} (hpos : 0 < mBacklightMax.toInt)
    (hfit : ∀ x ∈ intermediates nearWhite.state mBacklightMax, Fits x) :
    mBacklightMax.toInt ≤ 8488077 := by
  have hgrey : (rgbToBrightness nearWhite.state).toInt = 254 := rfl
  have hgt : mBacklightMax > 0 := Int32.lt_iff_toInt_lt.mpr hpos
  have hsum := hfit (253 * mBacklightMax.toInt + 127) (by simp [intermediates, hgrey, hgt])
  have hupper := hsum.2
  omega

/-- Its scaled brightness bounds the maximum from below. -/
theorem Light.le_max_of_nearWhite {light : Light} (hpos : 0 < light.mBacklightMax.toInt)
    (hmax : light.mBacklightMax.toInt ≤ 8488077)
    (h : light.lcdBrightness (rgbToBrightness nearWhite.state) ≤ light.mBacklightMax) :
    64 ≤ light.mBacklightMax.toInt := by
  have hgrey : (rgbToBrightness nearWhite.state).toInt = 254 := rfl
  rw [Int32.le_iff_toInt_le, Light.toInt_lcdBrightness hpos hmax (by omega), hgrey,
    if_neg (by decide), if_neg (by decide)] at h
  omega

/-- For every maximum of at least one, requests outside low-persistence mode write zero exactly for
no brightness, otherwise a value from one to the maximum, the maximum for full brightness, never
less for more brightness, and nothing overflows, exactly when the maximum is at least 64 and at most
8488077. -/
theorem Light.backlight_scales_iff (light : Light) (hpos : 1 ≤ light.mBacklightMax) :
    ((∀ r : Request, r.Plain → ∃ value, (light.serve r).files.lookup .lcd = some (.int value) ∧
        (value = 0 ↔ rgbToBrightness r.state = 0) ∧
        (rgbToBrightness r.state ≠ 0 → 1 ≤ value ∧ value ≤ light.mBacklightMax) ∧
        (rgbToBrightness r.state = 255 → value = light.mBacklightMax)) ∧
      (∀ (r₁ r₂ : Request) (value₁ value₂ : Int32), r₁.Plain → r₂.Plain →
        (light.serve r₁).files.lookup .lcd = some (.int value₁) →
        (light.serve r₂).files.lookup .lcd = some (.int value₂) →
        rgbToBrightness r₁.state ≤ rgbToBrightness r₂.state → value₁ ≤ value₂) ∧
      ∀ state, ∀ x ∈ intermediates state light.mBacklightMax, Fits x) ↔
      64 ≤ light.mBacklightMax ∧ light.mBacklightMax ≤ 8488077 := by
  have hpos : 0 < light.mBacklightMax.toInt := Int32.le_iff_toInt_le.mp hpos
  have h64 : (64 : Int32).toInt = 64 := rfl
  have hlargest : (8488077 : Int32).toInt = 8488077 := rfl
  have hwritten {r : Request} (hr : r.Plain) {value : Int32}
      (hvalue : (light.serve r).files.lookup .lcd = some (.int value)) :
      light.lcdBrightness (rgbToBrightness r.state) = value := by
    simpa [hr.lookup_lcd light] using hvalue
  rw [Int32.le_iff_toInt_le, Int32.le_iff_toInt_le, h64, hlargest]
  constructor
  · rintro ⟨hvalues, -, hfit⟩
    -- both bounds show at a grey one step below white
    have hmax := max_le_of_fits hpos (hfit nearWhite.state)
    obtain ⟨value, hvalue, -, hrange, -⟩ := hvalues nearWhite nearWhite_plain
    obtain rfl := hwritten nearWhite_plain hvalue
    exact ⟨Light.le_max_of_nearWhite hpos hmax (hrange (by decide)).2, hmax⟩
  · rintro ⟨hmin, hmax⟩
    refine ⟨fun r hr => ⟨_, hr.lookup_lcd light, ?_⟩, ?_, fun _ => intermediates_fit hpos hmax⟩
    · exact Light.lcdBrightness_spec hmin hmax (rgbToBrightness_range r.state)
    · intro r₁ r₂ value₁ value₂ hr₁ hr₂ hvalue₁ hvalue₂ hle
      obtain rfl := hwritten hr₁ hvalue₁
      obtain rfl := hwritten hr₂ hvalue₂
      rw [Int32.le_iff_toInt_le] at hle ⊢
      exact Light.lcdBrightness_mono hmin hmax (rgbToBrightness_range r₁.state).1
        (rgbToBrightness_range r₂.state).2 hle

/-- A panel with 255 steps: a grey below white gets a value of the range, white the maximum, no less
than the grey, and nothing overflows for any request. -/
theorem Light.backlight_scales_with_255 :
    let off : LightState := ⟨0, .none, 0, 0, .user⟩
    let light := Light.constructed ⟨255, ⟨255, 255, 255⟩, ⟨255, 255, 255⟩, true, true, off, off⟩
    let white := { nearWhite with state.color := 0xffffff }
    ∃ grey, (light.serve nearWhite).files.lookup .lcd = some (.int grey) ∧
      1 ≤ grey ∧ grey ≤ 255 ∧ (light.serve white).files.lookup .lcd = some (.int 255) ∧
      (∀ value, (light.serve white).files.lookup .lcd = some (.int value) → grey ≤ value) ∧
      ∀ state, ∀ x ∈ intermediates state light.mBacklightMax, Fits x := by
  intro off light white
  have hwhite : white.Plain := ⟨rfl, rfl, rfl, rfl⟩
  obtain ⟨hvalues, hmono, hfit⟩ :=
    (Light.backlight_scales_iff light (by decide)).mpr ⟨by decide, by decide⟩
  obtain ⟨grey, hgrey, -, hrange, -⟩ := hvalues nearWhite nearWhite_plain
  obtain ⟨full, hfull, -, -, hmax⟩ := hvalues white hwhite
  obtain ⟨hpos, hle⟩ := hrange (by decide)
  rw [hmax (by decide)] at hfull
  exact ⟨grey, hgrey, hpos, hle, hfull, fun value hvalue =>
    hmono nearWhite white grey value nearWhite_plain hwhite hgrey hvalue (by decide), hfit⟩

/-- A panel with 63 steps gets the value 64. -/
theorem Light.backlight_above_maximum :
    let off : LightState := ⟨0, .none, 0, 0, .user⟩
    let light := Light.constructed ⟨63, ⟨255, 255, 255⟩, ⟨255, 255, 255⟩, true, true, off, off⟩
    (light.serve nearWhite).files.lookup .lcd = some (.int 64) := by
  decide +kernel

end Yoshino.Lights
