import Yoshino.PowerHal.Service

/-!
# What one event can change

Each event touches a fixed set of hints and at most one of the mode flags. The lemmas here
say so once; the invariants of the service are derived from them without unfolding the
entry points again.
-/

namespace Yoshino.PowerHal

open Yoshino.Library

/-- The hint a call is about. -/
def HintCall.hint : HintCall → Hint
  | .doHint h | .endHint h | .timeout h => h

/-- A call about one hint leaves the others as they were. -/
theorem outstanding_cons_of_ne (h : Hint) (call : HintCall) (calls : List HintCall)
    (hne : call.hint ≠ h) : outstanding h (call :: calls) = outstanding h calls := by
  cases call <;> exact if_neg hne

@[simp] theorem Power.record_calls (p : Power) (call : HintCall) :
    (p.record call).calls = call :: p.calls := rfl

@[simp] theorem Power.doHint_calls (p : Power) (h : Hint) :
    (p.doHint h).calls = .doHint h :: p.calls := rfl

@[simp] theorem Power.endHint_calls (p : Power) (h : Hint) :
    (p.endHint h).calls = .endHint h :: p.calls := rfl

@[simp] theorem Power.setStateProperty_calls (p : Power) (value : String) :
    (p.setStateProperty value).calls = p.calls := rfl

/-- The client hint that switches video encoding. -/
abbrev videoEncodeHint : PowerHint13 := .v12 (.v10 .videoEncode)

/-- The client hint that switches sustained performance. -/
abbrev sustainedPerformanceHint : PowerHint13 := .v12 (.v10 .sustainedPerformance)

/-- The client hint that switches VR mode. -/
abbrev vrModeHint : PowerHint13 := .v12 (.v10 .vrMode)

/-- The data of a request naming the hint, for other events nothing. -/
def Event.dataFor (e : Event) (hint : PowerHint13) : Option Int32 :=
  match e with
  | .request r => if r.hint = hint then some r.data else none
  | _ => none

/-- The event asks for none of the three modes. -/
def Event.Plain (e : Event) : Prop :=
  e.dataFor videoEncodeHint = none ∧ e.dataFor sustainedPerformanceHint = none ∧
    e.dataFor vrModeHint = none

/-- The hint manager's hints outside the three modes. -/
def Hint.plain : Hint → Bool
  | .videoEncode | .sustainedPerformance | .vrMode | .vrSustainedPerformance => false
  | _ => true

/-- The plain hint that an event can start or end, if any. -/
def Event.plainHint : Event → Option Hint
  | .request r => match r.hint with
    | .v12 (.v10 .launch) => some .launch
    | .v12 (.v10 _) => none
    | .v12 .audioStreaming => some .audioStreaming
    | .v12 .audioLowLatency => some .audioLowLatency
    | .v12 .cameraLaunch => some .cameraLaunch
    | .v12 .cameraStreaming => some .cameraStreaming
    | .v12 .cameraShot => some .cameraShot
    | .expensiveRendering => some .expensiveRendering
  | .timeout h => if h.timed then some h else none
  | .perfLock | .perfRel => some .interaction

/-- Everything one event can do: run a mode branch, hand a request to the interaction handler
or do nothing, or pass one call about a plain hint to the hint manager. -/
inductive Power.Effect (p : Power) (e : Event) : Power → Prop
  | videoEncode (data : Int32) (hdata : e.dataFor videoEncodeHint = some data)
      (hready : p.mReady = true) : Effect p e (p.videoEncode data)
  | sustainedPerformance (data : Int32) (hdata : e.dataFor sustainedPerformanceHint = some data)
      (hready : p.mReady = true) : Effect p e (p.sustainedPerformance data)
  | vrMode (data : Int32) (hdata : e.dataFor vrModeHint = some data)
      (hready : p.mReady = true) : Effect p e (p.vrMode data)
  | quiet (acquired : List Int32) (hplain : p.mReady = true → e.Plain) :
      Effect p e { p with acquired := acquired }
  | call (c : HintCall) (hhint : e.plainHint = some c.hint) (hc : c.hint.plain = true)
      (hplain : e.Plain) : Effect p e (p.record c)

/-- A service that takes no hints yet ignores the request. -/
private theorem effect_of_not_ready (p : Power) (e : Event) (hready : p.mReady = false) :
    p.Effect e p :=
  .quiet p.acquired (by simp [hready])

/-- Requests for 1.0 hints. -/
private theorem effect_powerHint (p : Power) (hint : PowerHint10) (data : Int32) (r : Request)
    (hr : r.hint = .v12 (.v10 hint)) (hd : r.data = data) :
    p.Effect (.request r) (p.powerHint hint data) := by
  cases hready : p.mReady with
  | false => simpa [Power.powerHint, hready] using effect_of_not_ready p (.request r) hready
  | true =>
    have hquiet (hplain : Event.Plain (.request r)) : p.Effect (.request r) p :=
      .quiet p.acquired fun _ => hplain
    cases hint with
    | videoEncode =>
      simpa [Power.powerHint, hready] using
        Power.Effect.videoEncode (p := p) (e := .request r) data (by simp [Event.dataFor, hr, hd]) hready
    | sustainedPerformance =>
      simpa [Power.powerHint, hready] using
        Power.Effect.sustainedPerformance (p := p) (e := .request r) data
          (by simp [Event.dataFor, hr, hd]) hready
    | vrMode =>
      simpa [Power.powerHint, hready] using
        Power.Effect.vrMode (p := p) (e := .request r) data (by simp [Event.dataFor, hr, hd]) hready
    | interaction =>
      have hplain : Event.Plain (.request r) := by simp [Event.Plain, Event.dataFor, hr]
      by_cases hig : p.ignoring = true
      · simpa [Power.powerHint, hready, hig] using hquiet hplain
      · simpa [Power.powerHint, hready, hig] using
          Power.Effect.quiet (p := p) (e := .request r) (data :: p.acquired) fun _ => hplain
    | launch =>
      have hplain : Event.Plain (.request r) := by simp [Event.Plain, Event.dataFor, hr]
      have hcall (c : HintCall) (hc : c.hint = .launch) : p.Effect (.request r) (p.record c) :=
        .call c (by simp [Event.plainHint, hr, hc]) (by simp [hc, Hint.plain]) hplain
      by_cases hig : p.ignoring = true
      · simpa [Power.powerHint, hready, hig] using hquiet hplain
      · by_cases hzero : data = 0
        · simpa [Power.powerHint, hready, hig, hzero, Power.endHint] using hcall (.endHint .launch) rfl
        · simpa [Power.powerHint, hready, hig, hzero, Power.doHint] using hcall (.doHint .launch) rfl
    | vsync | videoDecode | lowPower | other value =>
      have hplain : Event.Plain (.request r) := by simp [Event.Plain, Event.dataFor, hr]
      simpa [Power.powerHint, hready] using hquiet hplain

/-- A request that starts the hint for some data, ends it for other data, or is refused. -/
private theorem effect_start_stop (p : Power) (r : Request) (h : Hint) (hc : h.plain = true)
    (hhint : Event.plainHint (.request r) = some h) (hplain : Event.Plain (.request r)) (q : Power)
    (hq : q = p.doHint h ∨ q = p.endHint h ∨ q = p) : p.Effect (.request r) q := by
  rcases hq with rfl | rfl | rfl
  · exact .call (.doHint h) hhint hc hplain
  · exact .call (.endHint h) hhint hc hplain
  · exact .quiet q.acquired fun _ => hplain

/-- The positive-data convention starts, ends or refuses. -/
theorem Power.startForPositive_cases (p : Power) (h : Hint) (data : Int32) :
    p.startForPositive h data = p.doHint h ∨ p.startForPositive h data = p.endHint h ∨
      p.startForPositive h data = p := by
  unfold startForPositive
  split
  · exact Or.inl rfl
  · split
    · exact Or.inr (Or.inl rfl)
    · exact Or.inr (Or.inr rfl)

/-- Every event has one of the listed effects. -/
theorem Power.step_effect (p : Power) (e : Event) : p.Effect e (p.step e) := by
  cases e with
  | request r =>
    change p.Effect _ (p.serve r)
    rw [serve_eq]
    cases hready : p.mReady with
    | false => simpa [powerHintAsync_1_3, hready] using effect_of_not_ready p (.request r) hready
    | true =>
      have hplain (h : ∀ hint, r.hint ≠ .v12 (.v10 hint)) : Event.Plain (.request r) := by
        simp [Event.Plain, Event.dataFor, h]
      rcases hr : r.hint with (hint | _ | _ | _ | _ | _) | _
      · rw [powerHintAsync_1_3_v12, powerHintAsync_1_2_v10]
        exact effect_powerHint p hint r.data r hr rfl
      · apply effect_start_stop p r .audioStreaming rfl (by simp [Event.plainHint, hr])
          (hplain (by simp [hr]))
        by_cases hzero : r.data = 0 <;> simp [powerHintAsync_1_3, powerHintAsync_1_2, hready, hzero]
      · apply effect_start_stop p r .audioLowLatency rfl (by simp [Event.plainHint, hr])
          (hplain (by simp [hr]))
        by_cases hzero : r.data = 0 <;> simp [powerHintAsync_1_3, powerHintAsync_1_2, hready, hzero]
      · apply effect_start_stop p r .cameraLaunch rfl (by simp [Event.plainHint, hr])
          (hplain (by simp [hr]))
        simpa [powerHintAsync_1_3, powerHintAsync_1_2, hready] using p.startForPositive_cases _ r.data
      · apply effect_start_stop p r .cameraStreaming rfl (by simp [Event.plainHint, hr])
          (hplain (by simp [hr]))
        simpa [powerHintAsync_1_3, powerHintAsync_1_2, hready] using p.startForPositive_cases _ r.data
      · apply effect_start_stop p r .cameraShot rfl (by simp [Event.plainHint, hr])
          (hplain (by simp [hr]))
        simpa [powerHintAsync_1_3, powerHintAsync_1_2, hready] using p.startForPositive_cases _ r.data
      · apply effect_start_stop p r .expensiveRendering rfl (by simp [Event.plainHint, hr])
          (hplain (by simp [hr]))
        by_cases hig : p.ignoring = true
        · simp [powerHintAsync_1_3, hready, hig]
        · by_cases hpos : r.data > 0 <;> simp [powerHintAsync_1_3, hready, hig, hpos]
  | timeout h =>
    have hplain : Event.Plain (.timeout h) := ⟨rfl, rfl, rfl⟩
    by_cases hcond : (h.timed && outstanding h p.calls) = true
    · have htimed : h.timed = true := (Bool.and_eq_true_iff.mp hcond).1
      have hc : h.plain = true := by
        cases h <;> simp_all [Hint.timed, Hint.plain]
      simpa [step, hcond] using
        Effect.call (p := p) (.timeout h) (by simp [Event.plainHint, htimed, HintCall.hint]) hc hplain
    · simpa [step, hcond] using Effect.quiet (p := p) p.acquired fun _ => hplain
  | perfLock => exact .call (.doHint .interaction) rfl rfl ⟨rfl, rfl, rfl⟩
  | perfRel => exact .call (.endHint .interaction) rfl rfl ⟨rfl, rfl, rfl⟩

end Yoshino.PowerHal
