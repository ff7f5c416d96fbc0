import Yoshino.Hwc.Edits

/-!
# What holds in every session

The displays share the validation bits and the numbers of the layers, so a call to one display must leave
the others in order too. In all sessions that calls lead to the books of every display agree, a display
that is validated has its stack, and the only calls that reach for a layer that is not there are those
that name a null pointer of the map.
-/

namespace Yoshino.Hwc

open Yoshino.Display (DisplayType FloatArith)

variable {F : Type} [FloatArith F]

namespace Composer

variable {h h' : Composer F}

/-- The calls that reach for a layer that is not there. -/
def Faults (h : Composer F) : Call F → Prop
  | .destroyLayer id => h.Dangling id
  | .setLayerZOrder id _ => h.Dangling id
  | _ => False

/-- A call that leaves the outline and validates no display. -/
theorem good_of_outline (hgood : h.Good) (hkept : h'.outline = h.outline ∧ h'.validated ⊆ h.validated) :
    h'.Good ∧ h.Follows h' := ⟨hgood.of_subset hkept.1 hkept.2, .of_subset hkept.1 hkept.2⟩

/-- A call that pauses or resumes the display takes the validation back. -/
theorem good_of_paused (hgood : h.Good) (paused : Bool)
    (houtline : h'.outline = { h.outline with paused := paused }) (hvalidated : h'.validated = ∅) :
    h'.Good ∧ h.Follows h' := by
  refine ⟨.of_empty ?_ hvalidated, .of_empty ?_ (congrArg Outline.nextId houtline).ge hvalidated⟩
  · rw [houtline]
    exact hgood.books.of_stack _ _ _ _
  · rw [houtline]

/-- `SetDisplayStatus` keeps the display good. -/
theorem setDisplayStatus_good (hgood : h.Good) (status : DisplayStatus) (error : DisplayError) :
    (h.setDisplayStatus status error).Good ∧ h.Follows (h.setDisplayStatus status error) := by
  cases status with
  | offline => exact good_of_outline hgood (setPowerMode_outline _ _)
  | online => exact good_of_outline hgood (setPowerMode_outline _ _)
  | pause =>
    refine good_of_paused hgood true ?_ rfl
    exact (setPowerMode_outline
      (h := { h with display := { h.display with displayPaused := true } }) .off error).1
  | resume =>
    refine good_of_paused hgood false ?_ rfl
    exact (setPowerMode_outline
      (h := { h with display := { h.display with displayPaused := false, fbtValid := false } }) .on error).1

/-- `SetColorTransform` leaves the books alone. -/
theorem setColorTransform_outline (identity ok : Bool) :
    (h.setColorTransform identity ok).1.outline = h.outline ∧
      (h.setColorTransform identity ok).1.validated ⊆ h.validated := by
  rw [setColorTransform]
  split
  · exact ⟨rfl, subset_rfl⟩
  · exact ⟨rfl, Finset.empty_subset _⟩

/-- A forced refresh rate leaves the books alone. -/
theorem forceRefreshRate_outline (rate : UInt32) :
    (h.forceRefreshRate rate).outline = h.outline ∧ (h.forceRefreshRate rate).validated ⊆ h.validated := by
  simp only [forceRefreshRate]
  refine ⟨?_, Finset.empty_subset _⟩
  split <;> rfl

/-- A refresh leaves the books alone. -/
theorem refresh_outline : h.refresh.outline = h.outline ∧ h.refresh.validated ⊆ h.validated := by
  rw [refresh]
  split <;> exact ⟨rfl, subset_rfl⟩

/-- The first component of a result. -/
theorem of_map_fst {α : Type} {r : Option (Composer F × α)} (hres : r.map Prod.fst = some h') :
    ∃ a, r = some (h', a) := by
  obtain ⟨⟨h₁, a⟩, hr, rfl⟩ := Option.map_eq_some_iff.mp hres
  exact ⟨a, hr⟩

/-- A result with an error code that is not looked at. -/
theorem map_fst_of_exists {α : Type} {P : Composer F → Prop} {r : Option (Composer F × α)}
    (hr : ∃ h' a, r = some (h', a) ∧ P h') : ∃ h', r.map Prod.fst = some h' ∧ P h' := by
  obtain ⟨h', a, rfl, hP⟩ := hr
  exact ⟨h', rfl, hP⟩

/-- A call that reaches for no null pointer ends, and keeps the display good. -/
theorem call_good (hgood : h.Good) (current : Int → Int) (call : Call F) (hthere : ¬ h.Faults call) :
    ∃ h', h.call current call = some h' ∧ h'.Good ∧ h.Follows h' := by
  cases call with
  | createDisplay | destroyDisplay => exact ⟨h, rfl, hgood, .of_subset rfl subset_rfl⟩
  | createLayer => exact ⟨_, rfl, createLayer_good hgood.books⟩
  | destroyLayer id => exact map_fst_of_exists (destroyLayer_good hgood hthere)
  | setLayerZOrder id z => exact map_fst_of_exists (setLayerZOrder_good hgood hthere z)
  | layerFunction id call => exact map_fst_of_exists (callLayerFunction_good hgood current id call)
  | setClientTarget dup target acquireFence dataspace damage =>
    obtain ⟨houtline, hvalidated⟩ := h.setClientTarget_outline current dup target acquireFence dataspace damage
    exact ⟨_, rfl, good_of_outline hgood ⟨houtline, hvalidated.le⟩⟩
  | validate validation => exact map_fst_of_exists (validate_good hgood.books validation)
  | acceptDisplayChanges => exact map_fst_of_exists (acceptDisplayChanges_good hgood)
  | present answer =>
    obtain ⟨h', result, hpresent, hkept⟩ := present_outline hgood answer
    exact map_fst_of_exists ⟨h', result, hpresent, good_of_outline hgood hkept⟩
  | getReleaseFences =>
    obtain ⟨h', out, hfences, houtline, hvalidated⟩ := getReleaseFences_outline hgood.books
    exact map_fst_of_exists ⟨h', out, hfences, good_of_outline hgood ⟨houtline, hvalidated.le⟩⟩
  | setPowerMode mode error => exact ⟨_, rfl, good_of_outline hgood (setPowerMode_outline mode error)⟩
  | setDisplayStatus status error => exact ⟨_, rfl, setDisplayStatus_good hgood status error⟩
  | toggleScreenUpdates enable => exact ⟨_, rfl, good_of_paused hgood (!enable) rfl rfl⟩
  | setColorTransform identity ok =>
    exact ⟨_, rfl, good_of_outline hgood (setColorTransform_outline identity ok)⟩
  | setDisplayAnimating animating => exact ⟨_, rfl, good_of_outline hgood ⟨rfl, Finset.empty_subset _⟩⟩
  | setSolidFill enable => exact ⟨_, rfl, good_of_outline hgood ⟨rfl, Finset.empty_subset _⟩⟩
  | forceRefreshRate rate => exact ⟨_, rfl, good_of_outline hgood (forceRefreshRate_outline rate)⟩
  | refresh => exact ⟨_, rfl, good_of_outline hgood refresh_outline⟩
  | resetValidation => exact ⟨_, rfl, good_of_outline hgood ⟨rfl, Finset.empty_subset _⟩⟩

/-- A call that reaches for a null pointer does not end. -/
theorem call_faults {call : Call F} (hfaults : h.Faults call) (current : Int → Int) :
    h.call current call = none := by
  cases call with
  | destroyLayer id => simp [Composer.call, destroyLayer, hfaults.1, findInSet_null, hfaults.2]
  | setLayerZOrder id z => simp [Composer.call, setLayerZOrder, hfaults.1, findInSet_null, hfaults.2]
  | _ => exact hfaults.elim

/-- A call validates no other display and gives no number twice. -/
theorem follows_of_call (hgood : h.Good) {current : Int → Int} {call : Call F}
    (hres : h.call current call = some h') : h.Follows h' := by
  have hthere : ¬ h.Faults call := by
    intro hfaults
    simp [call_faults hfaults current] at hres
  obtain ⟨h'', hcall, -, hfollows⟩ := call_good hgood current call hthere
  exact Option.some.inj (hcall.symm.trans hres) ▸ hfollows

end Composer

namespace Session

variable {s s' : Session F}

/-- Every display is filed under its type, and is in order. -/
def Sound (s : Session F) : Prop :=
  ∀ type d, s.displays type = some d → d.type = type ∧ (s.view d).Good

/-- The call of the session reaches for a layer that is not there. -/
def Faults (s : Session F) (type : DisplayType) (call : Call F) : Prop :=
  ∃ d, s.displays type = some d ∧ (s.view d).Faults call

/-- A display that another one shares more numbers and fewer validation bits with. -/
theorem good_of_shared {d : HwcDisplay F} (hgood : (s.view d).Good) (hnext : s.nextId ≤ s'.nextId)
    (hvalidated : d.type ∈ s'.validated → d.type ∈ s.validated) : (s'.view d).Good where
  books := hgood.books.of_le hnext
  current hmem := hgood.current (hvalidated hmem)

/-- A display of its own type is put back, and the others see what it has changed. -/
theorem Sound.put (hs : s.Sound) {type : DisplayType} {d : HwcDisplay F} {h : Composer F}
    (hd : s.displays type = some d) (hgood : h.Good) (hfollows : (s.view d).Follows h) :
    (s.put type h).Sound := by
  have htype : d.type = type := (hs type d hd).1
  intro t d' hd'
  by_cases ht : t = type
  · subst ht
    obtain rfl : h.display = d' := by simpa [Session.put] using hd'
    exact ⟨hfollows.type.trans htype, hgood⟩
  · have hold : s.displays t = some d' := by simpa [Session.put, ht] using hd'
    obtain ⟨rfl, hgood'⟩ := hs t d' hold
    exact ⟨rfl, good_of_shared hgood' hfollows.nextId
      (hfollows.others d'.type fun heq => ht (heq.trans htype))⟩

/-- The books of a new display agree. -/
theorem display_books (settings : Settings) (type : DisplayType) (id : LayerId) :
    ({ display := settings.display type id, validated := ∅, nextId := id + 1, ledger := s.ledger } :
      Composer F).outline.Books where
  nodup := List.nodup_nil
  sorted := List.Pairwise.nil
  alive _ := by simp [Composer.outline, Settings.display, Layers.marks]
  number _ _ hmark := by simp [Composer.outline, Settings.display, Layers.marks] at hmark
  mapped _ hid := absurd hid List.not_mem_nil
  entry _ _ hentry := by simp [Composer.outline, Settings.display] at hentry
  used _ hused := by simp [Composer.outline, Settings.display] at hused
  changed _ hid := absurd hid List.not_mem_nil

/-- A display goes, and the session stays sound. -/
theorem destroyDisplay_sound (hs : s.Sound) {type : DisplayType} {d : HwcDisplay F}
    (hd : s.displays type = some d) : ∃ s', s.destroyDisplay type d = some s' ∧ s'.Sound := by
  have hlive : ∀ id ∈ d.layerSet, (d.layers.marks id).isSome :=
    Composer.live_of_books (hs type d hd).2.books
  obtain ⟨layers, closed, hloop, -⟩ := forLayers_marks (f := closeLayer)
    (a := Composer.closings d.clientTarget) (fun _ _ => ⟨rfl, rfl⟩) hlive
  refine ⟨_, by rw [destroyDisplay, hloop]; rfl, fun t d' hd' => ?_⟩
  by_cases ht : t = type
  · simp [ht] at hd'
  · obtain ⟨htype, hgood⟩ := hs t d' (by simpa [ht] using hd')
    exact ⟨htype, good_of_shared hgood le_rfl id⟩

/-- A call that does not reach for a missing layer is answered, and leaves all displays in order. -/
theorem Sound.call (hs : s.Sound) (current : Int → Int) {type : DisplayType} {call : Call F}
    (hthere : ¬ s.Faults type call) : ∃ s', s.call current type call = some s' ∧ s'.Sound := by
  cases hd : s.displays type with
  | none =>
    cases call with
    | createDisplay settings =>
      refine ⟨_, by simp only [Session.call, hd]; rfl, fun t d' hd' => ?_⟩
      by_cases ht : t = type
      · obtain rfl : settings.display type s.nextId = d' := by simpa [createDisplay, ht] using hd'
        exact ⟨ht.symm, .of_empty (display_books settings type s.nextId) rfl⟩
      · obtain ⟨htype, hgood⟩ := hs t d' (by simpa [createDisplay, ht] using hd')
        exact ⟨htype, good_of_shared hgood (Nat.le_succ _) fun hmem => absurd hmem (Finset.notMem_empty _)⟩
    | _ => exact ⟨s, by simp only [Session.call, hd], hs⟩
  | some d =>
    obtain ⟨h', hcall, hgood, hfollows⟩ := Composer.call_good (hs type d hd).2 current call
      fun hfaults => hthere ⟨d, hd, hfaults⟩
    have hput : ∃ s', ((s.view d).call current call).map (s.put type) = some s' ∧ s'.Sound :=
      ⟨_, by rw [hcall]; rfl, hs.put hd hgood hfollows⟩
    cases call with
    | destroyDisplay =>
      obtain ⟨s', hdestroy, hs'⟩ := destroyDisplay_sound hs hd
      exact ⟨s', by simp only [Session.call, hd, hdestroy], hs'⟩
    | _ => simpa only [Session.call, hd] using hput

/-- A call of a session that reaches for a null pointer does not end. -/
theorem call_eq_none {type : DisplayType} {call : Call F} (hfaults : s.Faults type call)
    (current : Int → Int) : s.call current type call = none := by
  obtain ⟨d, hd, hcall⟩ := hfaults
  have hnone := Composer.call_faults hcall current
  cases call with
  | destroyLayer | setLayerZOrder => simp only [Session.call, hd, hnone, Option.map_none]
  | _ => exact hcall.elim

/-- What a call of the session can do: it creates a display, finds none, destroys one, or calls one. -/
theorem call_cases {current : Int → Int} {type : DisplayType} {call : Call F}
    (hcall : s.call current type call = some s') :
    (∃ settings, s.displays type = none ∧ s' = s.createDisplay type settings) ∨ s' = s ∨
      (∃ d, call = .destroyDisplay ∧ s.displays type = some d ∧ s.destroyDisplay type d = some s') ∨
      ∃ d h, s.displays type = some d ∧ (s.view d).call current call = some h ∧ s' = s.put type h := by
  cases hd : s.displays type with
  | none =>
    cases call with
    | createDisplay settings =>
      simp only [Session.call, hd, Option.some.injEq] at hcall
      exact .inl ⟨settings, rfl, hcall.symm⟩
    | _ =>
      simp only [Session.call, hd, Option.some.injEq] at hcall
      exact .inr (.inl hcall.symm)
  | some d =>
    cases call with
    | destroyDisplay =>
      simp only [Session.call, hd] at hcall
      exact .inr (.inr (.inl ⟨d, rfl, rfl, hcall⟩))
    | _ =>
      simp only [Session.call, hd] at hcall
      obtain ⟨h, hres, rfl⟩ := Option.map_eq_some_iff.mp hcall
      exact .inr (.inr (.inr ⟨d, h, rfl, hres, rfl⟩))

/-- At the start there is no display. -/
theorem sound_start : Sound ({} : Session F) := fun type d hd => by simp at hd

/-- A call that ends keeps the session sound. -/
theorem Sound.of_call (hs : s.Sound) {current : Int → Int} {type : DisplayType} {call : Call F}
    (hcall : s.call current type call = some s') : s'.Sound := by
  have hthere : ¬ s.Faults type call := by
    intro hfaults
    simp [call_eq_none hfaults current] at hcall
  obtain ⟨s'', hcall', hs'⟩ := hs.call current hthere
  obtain rfl := Option.some.inj (hcall'.symm.trans hcall)
  exact hs'

/-- Every session that calls lead to is sound. -/
theorem sound_of_reachable {current : Int → Int} (hs : Reachable current s) : s.Sound :=
  Library.Reaches.invariant hs Sound (fun _ _ _ hs hcall => hs.of_call hcall) sound_start

/-- In every session that calls lead to, the books of a display agree: its set is sorted by depth and has
each layer once, and the map knows these layers. A display that is validated and shows something has in
its stack exactly its layers and the client target, or a fill. -/
theorem good_of_reachable {current : Int → Int} (hs : Reachable current s) {type : DisplayType}
    {d : HwcDisplay F} (hd : s.displays type = some d) : (s.view d).Good :=
  (sound_of_reachable hs type d hd).2

/-- A display with two layers, one of which is moved and composed by the client, and the other destroyed. -/
def twoLayers : List (DisplayType × Call F) :=
  [(.primary, .createDisplay {}), (.primary, .createLayer), (.primary, .createLayer),
    (.primary, .setLayerZOrder 2 1),
    (.primary, .validate { prepared := { error := .none, composition := fun _ => .gpu } })]

/-- The client composes both layers, and the stack has them in the order of their depth. -/
theorem good_of_reachable_two : ∃ (s : Session Rat) (d : HwcDisplay Rat),
    Reachable id s ∧ s.displays .primary = some d ∧
      (.primary ∈ s.validated ∧ d.layerSet = [3, 2] ∧ d.layerChanges.length = 2) ∧ (s.view d).Good := by
  let test (s : Session Rat) : Bool := (s.displays .primary).any fun d => decide
    (.primary ∈ s.validated ∧ d.layerSet = [3, 2] ∧ d.layerChanges.length = 2)
  obtain ⟨s, hs, htest⟩ : ∃ s : Session Rat, Reachable id s ∧ test s = true :=
    Library.Reaches.of_any twoLayers test (by decide +kernel)
  obtain ⟨d, hd, htest⟩ := Option.any_eq_true _ _ |>.mp htest
  exact ⟨s, d, hs, hd, of_decide_eq_true htest, good_of_reachable hs hd⟩

/-- A layer is destroyed, and what the client composes is accepted while the display is paused: the number
of the layer gets a null pointer. -/
def acceptedLate : List (DisplayType × Call F) :=
  twoLayers ++ [(.primary, .destroyLayer 3), (.primary, .toggleScreenUpdates false),
    (.primary, .validate { prepared := { error := .none, composition := fun _ => .gpu } }),
    (.primary, .acceptDisplayChanges)]

end Session

end Yoshino.Hwc
