import Yoshino.Display.PipeSearch

/-!
# Taking the pipes for a layer

An acquisition says which pipes are taken for a layer and whether that is all the layer needs. `Prepare`
carries it out with two flaws. The number that a search returns is used as a place among the sorted
pipes, so the id stored is that of another pipe unless the table is in order there. And a pipe that has
been taken is not given back when what follows fails.
-/

namespace Yoshino.Display

variable {F : Type}

/-- The ids stored in the valid pipe configurations. -/
def HWLayerConfig.storedIds (c : HWLayerConfig F) : List UInt32 :=
  (if c.leftPipe.valid then [c.leftPipe.pipeId] else []) ++
    (if c.rightPipe.valid then [c.rightPipe.pipeId] else [])

/-- After a success the user-mode pipes of the block are those whose ids are stored, one for each valid
configuration; after a failure to take the pipes the block has none. -/
structure Prepared.ReservesExactly (r : Prepared F) (block : HWBlockType) : Prop where
  reserved : r.exit = .reserved → (r.resource.reservedIds block).Perm r.config.storedIds
  failed : ∀ error, r.exit = .failed error → r.resource.reserved block = []

/-- The pipes that are taken for a layer, by their places in order of priority, and whether they are all
that the layer needs. -/
structure Acquisition where
  succeeds : Bool
  places : List Nat

/-- The ids found in the places to which the hardware table sends some pipes are those of the pipes. -/
def HWResourceInfo.InPlace (info : HWResourceInfo) (places : List Nat) : Prop :=
  (places.map fun k => info.idAt (info.tableIndex k)).Perm (places.map info.idAt)

instance (info : HWResourceInfo) (places : List Nat) : Decidable (info.InPlace places) :=
  inferInstanceAs (Decidable (List.Perm _ _))

/-- All that is needed is taken and stands in place, or nothing is taken. -/
def Acquisition.Exact (q : Acquisition) (info : HWResourceInfo) : Prop :=
  if q.succeeds then info.InPlace q.places else q.places = []

instance (q : Acquisition) (info : HWResourceInfo) : Decidable (q.Exact info) :=
  inferInstanceAs (Decidable (if q.succeeds then info.InPlace q.places else q.places = []))

/-- What `Prepare` returns and leaves when it carries an acquisition out. -/
structure Prepared.Realizes (r : Prepared F) (info : HWResourceInfo) (block : HWBlockType)
    (q : Acquisition) : Prop where
  exit : r.exit = if q.succeeds then .reserved else .failed .resources
  reserved : (r.resource.reservedIds block).Perm (q.places.map info.idAt)
  stored : q.succeeds = true →
    r.config.storedIds.Perm (q.places.map fun k => info.idAt (info.tableIndex k))

/-- Whether the reservation is exact is decided by the acquisition that was carried out. -/
theorem Prepared.Realizes.reservesExactly_iff {r : Prepared F} {info : HWResourceInfo}
    {block : HWBlockType} {q : Acquisition} (h : r.Realizes info block q) :
    r.ReservesExactly block ↔ q.Exact info := by
  have hexit := h.exit
  unfold Acquisition.Exact
  cases hsucceeds : q.succeeds with
  | true =>
    rw [hsucceeds, if_pos rfl] at hexit
    rw [if_pos rfl]
    have hperm : (r.resource.reservedIds block).Perm r.config.storedIds ↔ info.InPlace q.places := by
      rw [h.reserved.congr_left, (h.stored hsucceeds).congr_right]
      exact List.perm_comm
    exact ⟨fun hexact => hperm.mp (hexact.reserved hexit),
      fun hplace => ⟨fun _ => hperm.mpr hplace, fun _ hfailed => by simp [hexit] at hfailed⟩⟩
  | false =>
    rw [hsucceeds, if_neg Bool.false_ne_true] at hexit
    rw [if_neg Bool.false_ne_true]
    have hnil : r.resource.reserved block = [] ↔ q.places = [] := by
      have hlength := h.reserved.length_eq
      rw [ResourceDefault.reservedIds, List.length_map, List.length_map] at hlength
      rw [← List.length_eq_zero_iff, hlength, List.length_eq_zero_iff]
    exact ⟨fun hexact => hnil.mp (hexact.failed _ hexit),
      fun hnone => ⟨fun hreserved => by simp [hexit] at hreserved, fun _ _ => hnil.mpr hnone⟩⟩

/-- Dual pipes are assigned in one of the two ways. -/
theorem ResourceDefault.assignDual_cases (s : ResourceDefault) (i j : Nat) (c : HWLayerConfig F) :
    ∃ l r, [l, r].Perm [i, j] ∧ s.assignDual i j c =
      { leftPipe := { c.leftPipe with pipeId := (s.srcPipe l).mdssPipeId }
        rightPipe := { c.rightPipe with pipeId := (s.srcPipe r).mdssPipeId } } := by
  by_cases hpriority : (s.srcPipe j).priority < (s.srcPipe i).priority
  · exact ⟨j, i, List.Perm.swap i j [], by rw [ResourceDefault.assignDual, if_pos hpriority]⟩
  · exact ⟨i, j, List.Perm.refl _, by rw [ResourceDefault.assignDual, if_neg hpriority]⟩

/-- A single pipe is stored in the left configuration alone. -/
theorem ResourceDefault.storedIds_assignSingle {s : ResourceDefault} {i : Nat} (hi : i < s.numPipe)
    {c : HWLayerConfig F} (hleft : c.leftPipe.valid = true) (hright : c.rightPipe.valid = false) :
    (s.assignSingle i c).storedIds = [(s.srcPipe i).mdssPipeId] := by
  rw [ResourceDefault.assignSingle, if_pos hi, HWLayerConfig.storedIds]
  simp [hleft, hright]

variable [FloatArith F]

/-- Whether the downscaling of a pipe can be done with the decimation there is. -/
def decimates (info : HWResourceInfo) (pipe : HWPipeInfo F) : Bool :=
  (calculateDecimation info (pipe.srcRoi.width / pipe.dstRoi.width)).isOk &&
    (calculateDecimation info (pipe.srcRoi.height / pipe.dstRoi.height)).isOk

/-- Setting the decimation writes nothing but the decimation. -/
theorem setDecimationFactor_cases (info : HWResourceInfo) (pipe : HWPipeInfo F) :
    ∃ result horizontal vertical,
      setDecimationFactor info pipe =
        (result, { pipe with horizontalDecimation := horizontal, verticalDecimation := vertical }) ∧
      (decimates info pipe = true ∧ result = .ok () ∨
        decimates info pipe = false ∧ ∃ e, result = .error e) := by
  unfold setDecimationFactor decimates
  dsimp only
  cases calculateDecimation info (pipe.srcRoi.width / pipe.dstRoi.width) with
  | error e => exact ⟨_, 0, 0, rfl, .inr ⟨rfl, _, rfl⟩⟩
  | ok horizontal =>
    cases calculateDecimation info (pipe.srcRoi.height / pipe.dstRoi.height) with
    | error e => exact ⟨_, horizontal, 0, rfl, .inr ⟨rfl, _, rfl⟩⟩
    | ok vertical => exact ⟨_, horizontal, vertical, rfl, .inl ⟨rfl, rfl⟩⟩

namespace ResourceDefault

variable {info : HWResourceInfo} {s : ResourceDefault} {block : HWBlockType} {c : HWLayerConfig F}

/-- What is taken for the right side when the pipe at `a` has been taken for the left. -/
def rightAcquisition (s : ResourceDefault) (a : Nat) (c : HWLayerConfig F) : Acquisition :=
  match s.pick (isScalingNeeded c.rightPipe) with
  | none => ⟨false, [a]⟩
  | some b => ⟨decimates s.hwResInfo c.rightPipe, [a, b]⟩

/-- What is taken for a layer from a manager that holds nothing for the block. -/
def acquisition (s : ResourceDefault) (block : HWBlockType) (c : HWLayerConfig F) : Acquisition :=
  match s.pick (isScalingNeeded c.leftPipe) with
  | none => ⟨false, []⟩
  | some a =>
    if !decimates s.hwResInfo c.leftPipe then ⟨false, [a]⟩
    else if c.rightPipe.valid then (s.reserve a block).rightAcquisition a c
    else ⟨true, [a]⟩

/-- There are as many source pipes as the counts say. -/
theorem LaidOut.length_srcPipes (h : s.LaidOut info) (hinfo : info.Consistent) :
    s.srcPipes.length = s.numPipe := by
  rw [← List.length_map (f := SourcePipe.bare), h.bare, length_layout hinfo, h.numPipe]

/-- The id of a pipe that is taken joins the ids of the block. -/
theorem LaidOut.reservedIds_reserve (h : s.LaidOut info) (hinfo : info.Consistent) {needScale : Bool}
    {i : Nat} (hpick : s.pick needScale = some i) :
    ((s.reserve i block).reservedIds block).Perm (info.idAt i :: s.reservedIds block) := by
  obtain ⟨hi, hfree⟩ := (h.searchable hinfo).pick_spec hpick
  have hperm := (reserved_reserve (h.length_srcPipes hinfo ▸ hi) hfree block).map
    SourcePipe.mdssPipeId
  rw [List.map_cons] at hperm
  exact h.mdssPipeId i ▸ hperm

/-- The second part of `Prepare` carries the right side out. -/
theorem acquireRight_realizes (h : s.LaidOut info) (hinfo : info.Consistent) {a : Nat}
    (hids : (s.reservedIds block).Perm [info.idAt a]) (hleft : c.leftPipe.valid = true)
    (hright : c.rightPipe.valid = true) :
    (s.acquireRight block (info.tableIndex a) c).Realizes info block (s.rightAcquisition a c) := by
  have hsearch := h.searchable hinfo
  unfold acquireRight rightAcquisition
  rw [hsearch.getPipe_eq]
  cases hpick : s.pick (isScalingNeeded c.rightPipe) with
  | none =>
    dsimp only [taken]
    rw [if_pos le_rfl]
    exact ⟨rfl, hids, nofun⟩
  | some b =>
    have hindex : ¬ (s.reserve b block).numPipe ≤ (s.srcPipe b).index :=
      Nat.not_le.mpr (hsearch.index b (hsearch.pick_spec hpick).1)
    have hboth : ((s.reserve b block).reservedIds block).Perm [info.idAt a, info.idAt b] :=
      ((h.reservedIds_reserve hinfo hpick).trans (hids.cons _)).trans (List.Perm.swap _ _ _)
    obtain ⟨l, r, hswap, hassign⟩ :=
      assignDual_cases (s.reserve b block) (info.tableIndex a) (s.srcPipe b).index c
    obtain ⟨result, horizontal, vertical, hset, hresult⟩ :=
      setDecimationFactor_cases (s.reserve b block).hwResInfo
        { c.rightPipe with pipeId := ((s.reserve b block).srcPipe r).mdssPipeId }
    dsimp only [taken]
    rw [if_neg hindex, hassign, hset]
    obtain ⟨hyes, rfl⟩ | ⟨hno, error, rfl⟩ := hresult
    · have hdecimates : decimates s.hwResInfo c.rightPipe = true := hyes
      refine ⟨by rw [hdecimates]; rfl, hboth, fun _ => ?_⟩
      rw [h.index b] at hswap
      simp only [HWLayerConfig.storedIds, hleft, hright, if_true, (h.reserve b block).mdssPipeId]
      exact hswap.map info.idAt
    · have hdecimates : decimates s.hwResInfo c.rightPipe = false := hno
      exact ⟨by rw [hdecimates]; rfl, hboth, fun hyes => by simp [hdecimates] at hyes⟩

/-- The first part of `Prepare` carries the acquisition out, from what is left of the pipes when the
block has given its own back. -/
theorem acquire_realizes (h : s.LaidOut info) (hinfo : info.Consistent) (block : HWBlockType)
    (hleft : c.leftPipe.valid = true) :
    (s.acquire block c).Realizes info block ((s.release block).acquisition block c) := by
  have hnone : (s.release block).reservedIds block = [] := by
    rw [reservedIds, reserved_release, List.map_nil]
  unfold acquire
  generalize s.release block = t, h.release block = ht at hnone
  have hsearch := ht.searchable hinfo
  unfold acquisition
  rw [leftPipe, if_pos hleft, hsearch.getPipe_eq]
  cases hpick : t.pick (isScalingNeeded c.leftPipe) with
  | none =>
    dsimp only [taken]
    rw [if_pos (by simp [hleft])]
    exact ⟨rfl, hnone ▸ List.Perm.refl _, nofun⟩
  | some a =>
    have hindex : (t.srcPipe a).index < (t.reserve a block).numPipe :=
      hsearch.index a (hsearch.pick_spec hpick).1
    have htaken := ht.reserve a block
    have hids : ((t.reserve a block).reservedIds block).Perm [info.idAt a] :=
      hnone ▸ ht.reservedIds_reserve hinfo hpick
    obtain ⟨result, horizontal, vertical, hset, hresult⟩ :=
      setDecimationFactor_cases (t.reserve a block).hwResInfo c.leftPipe
    dsimp only [taken]
    rw [if_neg (by simpa using fun _ => hindex), hset]
    obtain ⟨hyes, rfl⟩ | ⟨hno, error, rfl⟩ := hresult
    · have hdecimates : decimates t.hwResInfo c.leftPipe = true := hyes
      rw [hdecimates, if_neg (by decide), ht.index a]
      rw [ht.index a] at hindex
      dsimp only
      by_cases hright : c.rightPipe.valid = true
      · rw [if_pos hright, if_pos hright]
        exact acquireRight_realizes htaken hinfo hids hleft hright
      · rw [if_neg hright, if_neg hright]
        refine ⟨rfl, hids, fun _ => ?_⟩
        rw [storedIds_assignSingle hindex (by exact hleft) (by simpa using hright), htaken.mdssPipeId]
        exact List.Perm.refl _
    · have hdecimates : decimates t.hwResInfo c.leftPipe = false := hno
      rw [hdecimates]
      exact ⟨rfl, hids, nofun⟩

/-- The places of an acquisition are places of the manager. -/
theorem acquisition_lt (h : s.LaidOut info) (hinfo : info.Consistent) (block : HWBlockType)
    (c : HWLayerConfig F) : ∀ k ∈ (s.acquisition block c).places, k < info.hwPipes.length := by
  have hpicked {t : ResourceDefault} (ht : t.LaidOut info) {needScale : Bool} {k : Nat}
      (hpick : t.pick needScale = some k) : k < info.hwPipes.length :=
    ht.numPipe ▸ ((ht.searchable hinfo).pick_spec hpick).1
  unfold acquisition
  cases hleft : s.pick (isScalingNeeded c.leftPipe) with
  | none => simp
  | some a =>
    have ha := hpicked h hleft
    have hright : ∀ k ∈ ((s.reserve a block).rightAcquisition a c).places, k < info.hwPipes.length := by
      unfold rightAcquisition
      cases hpick : (s.reserve a block).pick (isScalingNeeded c.rightPipe) with
      | none => simpa using ha
      | some b => simpa using ⟨ha, hpicked (h.reserve a block) hpick⟩
    dsimp only
    split
    · simpa using ha
    · split
      · exact hright
      · simpa using ha

end ResourceDefault

/-- A table in order of priority sends every pipe to its own place. -/
theorem HWResourceInfo.inPlace_of_sorted {info : HWResourceInfo}
    (hsorted : info.priorityOrder = info.hwPipes.zipIdx) {places : List Nat}
    (hplaces : ∀ k ∈ places, k < info.hwPipes.length) : info.InPlace places := by
  have hindex (k : Nat) (hk : k ∈ places) : info.tableIndex k = k := by
    rw [tableIndex, entryAt, hsorted, List.getD_eq_getElem?_getD, List.getElem?_zipIdx,
      List.getElem?_eq_getElem (hplaces k hk)]
    exact Nat.zero_add k
  rw [InPlace, List.map_congr_left fun k hk => congrArg info.idAt (hindex k hk)]

end Yoshino.Display
