import Yoshino.Library.PriorityNode

/-!
# The hint manager behind the power HAL

The HAL drives libperfmgr's `HintManager` by hint name. The manager is modelled by its
call history, newest call first: a hint is outstanding when the latest call about it is a
`DoHint`. Timed hints additionally end by a timeout. The three `Property` nodes of
`powerhint.json` hold the highest-priority value that an outstanding action requests and
write their system property whenever that value changes.

The manager's source is not part of this repository. What is used of it is that ending an
inactive hint changes nothing and that nodes arbitrate by the order of their values.
-/

namespace Yoshino.PowerHal

open Yoshino.Library

/-- The hints of `powerhint.json`. -/
inductive Hint
  | videoEncode
  | sustainedPerformance
  | vrMode
  | vrSustainedPerformance
  | interaction
  | launch
  | cameraLaunch
  | cameraStreaming
  | cameraShot
  | audioStreaming
  | audioLowLatency
  | expensiveRendering
  deriving DecidableEq, Repr

/-- Hints whose actions carry a duration, in the configuration or as an override. -/
def Hint.timed : Hint → Bool
  | .launch | .cameraLaunch | .cameraStreaming | .cameraShot | .audioStreaming => true
  | _ => false

/-- The events that start or end a hint. -/
inductive HintCall
  | doHint (h : Hint)
  | endHint (h : Hint)
  | timeout (h : Hint)
  deriving DecidableEq, Repr

/-- A hint is outstanding when it was started and not ended since, which `outstanding_iff` spells out; the
newest call comes first. -/
def outstanding (h : Hint) : List HintCall → Bool
  | [] => false
  | .doHint k :: older => if k = h then true else outstanding h older
  | .endHint k :: older => if k = h then false else outstanding h older
  | .timeout k :: older => if k = h then false else outstanding h older

/-- Outstanding means that some start of the hint is followed by no end of it. -/
theorem outstanding_iff (h : Hint) (calls : List HintCall) :
    outstanding h calls = true ↔ ∃ newer older, calls = newer ++ .doHint h :: older ∧
      .endHint h ∉ newer ∧ .timeout h ∉ newer := by
  induction calls with
  | nil => simp [outstanding]
  | cons call older ih =>
    constructor
    · intro hout
      by_cases hcall : call = .doHint h
      · exact ⟨[], older, by simp [hcall], by simp, by simp⟩
      · -- a call about another hint, or about this one, must leave the older start standing
        have holder : outstanding h older = true ∧ call ≠ .endHint h ∧ call ≠ .timeout h := by
          cases call <;> simp_all [outstanding]
        obtain ⟨newer, rest, rfl, hend, htimeout⟩ := ih.mp holder.1
        refine ⟨call :: newer, rest, rfl, ?_, ?_⟩
        · simpa [hend] using holder.2.1.symm
        · simpa [htimeout] using holder.2.2.symm
    · rintro ⟨newer, rest, hsplit, hend, htimeout⟩
      cases newer with
      | nil =>
        obtain ⟨rfl, rfl⟩ := List.cons.inj hsplit
        simp [outstanding]
      | cons first newer =>
        rw [List.cons_append, List.cons.injEq] at hsplit
        obtain ⟨rfl, rfl⟩ := hsplit
        have hrest := ih.mpr ⟨newer, rest, rfl, fun hm => hend (List.mem_cons_of_mem _ hm),
          fun hm => htimeout (List.mem_cons_of_mem _ hm)⟩
        cases call with
        | doHint k => simp [outstanding, hrest]
        | endHint k =>
          have hk : k ≠ h := fun hk => hend (by simp [hk])
          simp [outstanding, hk, hrest]
        | timeout k =>
          have hk : k ≠ h := fun hk => htimeout (by simp [hk])
          simp [outstanding, hk, hrest]

/-- A `Property` node: its values by falling priority and the actions that request them. -/
structure PropertyNode where
  values : List String
  actions : List (Hint × String)

/-- Whether an outstanding action requests the value. -/
def PropertyNode.requested (node : PropertyNode) (calls : List HintCall) (value : String) : Bool :=
  node.actions.any fun action => outstanding action.1 calls && action.2 = value

/-- The value the node holds after the given calls. -/
def PropertyNode.value (node : PropertyNode) (calls : List HintCall) : String :=
  heldValue node.values (node.requested calls)

/-- The `PowerHALMainState` node, on `vendor.powerhal.state`. -/
def powerHALMainState : PropertyNode where
  values := ["CAMERA_STREAMING", "VR_SUSTAINED_PERFORMANCE", "SUSTAINED_PERFORMANCE", "VR_MODE", ""]
  actions := [(.sustainedPerformance, "SUSTAINED_PERFORMANCE"), (.vrMode, "VR_MODE"),
    (.vrSustainedPerformance, "VR_SUSTAINED_PERFORMANCE"), (.cameraStreaming, "CAMERA_STREAMING")]

/-- The `PowerHALAudioState` node, on `vendor.powerhal.audio`. -/
def powerHALAudioState : PropertyNode where
  values := ["AUDIO_LOW_LATENCY", ""]
  actions := [(.audioLowLatency, "AUDIO_LOW_LATENCY")]

/-- The `PowerHALRenderingState` node, on `vendor.powerhal.rendering`. -/
def powerHALRenderingState : PropertyNode where
  values := ["EXPENSIVE_RENDERING", ""]
  actions := [(.expensiveRendering, "EXPENSIVE_RENDERING")]

/-- The value a node holds and the system property behind it, which others may also write. -/
structure PropertyState where
  held : String
  property : String
  deriving DecidableEq, Repr

/-- Let the node hold a value, writing the property only when the held value changes. -/
def PropertyState.hold (s : PropertyState) (value : String) : PropertyState :=
  if value = s.held then s else ⟨value, value⟩

/-- Write the property directly, behind the node's back. -/
def PropertyState.setProperty (s : PropertyState) (value : String) : PropertyState :=
  { s with property := value }

/-- The node ends up holding the value it was given. -/
@[simp] theorem PropertyState.hold_held (s : PropertyState) (value : String) :
    (s.hold value).held = value := by
  unfold PropertyState.hold
  split
  · next h => exact h.symm
  · rfl

/-- Holding the present value again leaves the property alone. -/
theorem PropertyState.hold_of_eq (s : PropertyState) (value : String) (h : value = s.held) :
    s.hold value = s := if_pos h

/-- Holding a new value writes it to the property. -/
theorem PropertyState.hold_of_ne (s : PropertyState) (value : String) (h : value ≠ s.held) :
    s.hold value = ⟨value, value⟩ := if_neg h

/-- Camera streaming has the highest priority on the main state. -/
theorem powerHALMainState_value_of_camera (calls : List HintCall)
    (h : outstanding .cameraStreaming calls = true) :
    powerHALMainState.value calls = "CAMERA_STREAMING" :=
  heldValue_cons_of_requested _ _ _ (by simp [PropertyNode.requested, powerHALMainState, h])

/-- Without camera streaming the combined mode wins, then each mode alone. -/
theorem powerHALMainState_value_of_no_camera (calls : List HintCall)
    (h : outstanding .cameraStreaming calls = false) :
    powerHALMainState.value calls =
      if outstanding .vrSustainedPerformance calls then "VR_SUSTAINED_PERFORMANCE"
      else if outstanding .sustainedPerformance calls then "SUSTAINED_PERFORMANCE"
      else if outstanding .vrMode calls then "VR_MODE" else "" := by
  have hcamera : powerHALMainState.requested calls "CAMERA_STREAMING" = false := by
    simp [PropertyNode.requested, powerHALMainState, h]
  have hboth : powerHALMainState.requested calls "VR_SUSTAINED_PERFORMANCE" =
      outstanding .vrSustainedPerformance calls := by
    simp [PropertyNode.requested, powerHALMainState]
  have hsustained : powerHALMainState.requested calls "SUSTAINED_PERFORMANCE" =
      outstanding .sustainedPerformance calls := by
    simp [PropertyNode.requested, powerHALMainState]
  have hvr : powerHALMainState.requested calls "VR_MODE" = outstanding .vrMode calls := by
    simp [PropertyNode.requested, powerHALMainState]
  unfold PropertyNode.value
  change heldValue ["CAMERA_STREAMING", "VR_SUSTAINED_PERFORMANCE", "SUSTAINED_PERFORMANCE",
    "VR_MODE", ""] _ = _
  rw [heldValue_cons_of_not_requested _ _ _ _ hcamera]
  split
  · next hb => exact heldValue_cons_of_requested _ _ _ (hboth.trans hb)
  · next hb =>
    rw [heldValue_cons_of_not_requested _ _ _ _ (by simpa [hboth] using hb)]
    split
    · next hs => exact heldValue_cons_of_requested _ _ _ (hsustained.trans hs)
    · next hs =>
      rw [heldValue_cons_of_not_requested _ _ _ _ (by simpa [hsustained] using hs)]
      split
      · next hv => exact heldValue_cons_of_requested _ _ _ (hvr.trans hv)
      · next hv =>
        rw [heldValue_cons_of_not_requested _ _ _ _ (by simpa [hvr] using hv), heldValue_singleton]

end Yoshino.PowerHal
